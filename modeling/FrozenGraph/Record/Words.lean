/-
This file splits identifiers into words and joins them in upper camel case. A word ends in front of
a character that is no letter or digit, between a lower-case and an upper-case letter, and in front
of the last capital of a run of capitals that goes on in lower case. Digits keep the case of what
stands before them.
-/

import FrozenGraph.Unicode.Alphanumeric
import FrozenGraph.Unicode.Case

namespace FrozenGraph.Words

/-- The case of the word so far. -/
inductive Mode where
  | start
  | lower
  | upper
deriving DecidableEq, Repr

/-- The case of a word after one more character. -/
def Mode.next (mode : Mode) (character : Char) : Mode :=
  if Unicode.isLowercase character then .lower
  else if Unicode.isUppercase character then .upper
  else mode

/-- The words of a run of letters and digits, where `current` is the word so far, its last
character first. -/
def splitRun : Mode → (current : List Char) → List Char → List (List Char)
  | _, _, [] => []
  | _, current, [last] => [(last :: current).reverse]
  | mode, current, character :: following :: rest =>
    let mode' := mode.next character
    if mode' = .lower ∧ Unicode.isUppercase following then
      (character :: current).reverse :: splitRun .start [] (following :: rest)
    else if mode = .upper ∧ Unicode.isUppercase character ∧ Unicode.isLowercase following then
      current.reverse :: splitRun .start [character] (following :: rest)
    else splitRun mode' (character :: current) (following :: rest)

/-- The longest runs of letters and digits, possibly empty. -/
def runs : List Char → List (List Char)
  | [] => [[]]
  | character :: rest =>
    if Unicode.isAlphanumeric character then
      match runs rest with
      | [] => [[character]]
      | first :: others => (character :: first) :: others
    else [] :: runs rest

/-- The words of an identifier. -/
def ofIdentifier (identifier : List Char) : List (List Char) :=
  (runs identifier).flatMap (splitRun .start [])

/-- The lower-case form of the rest of a word; a sigma at its end has a form of its own. -/
def lowerRest : List Char → List Char
  | [] => []
  | [last] => if last = 'Σ' then ['ς'] else Unicode.toLowercase last
  | character :: rest => Unicode.toLowercase character ++ lowerRest rest

/-- A word with its first letter in upper case and the rest in lower case. -/
def capitalize : List Char → List Char
  | [] => []
  | first :: rest => Unicode.toUppercase first ++ lowerRest rest

/-- The words of an identifier in upper camel case. -/
def upperCamel (identifier : List Char) : List Char :=
  (ofIdentifier identifier).flatMap capitalize

end FrozenGraph.Words
