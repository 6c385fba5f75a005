/-
This file reads texts that hold one token of a record's definition. Around a token may stand gaps:
white space, the two marks that set the direction of writing, and remarks, which end with their
line or are set between delimiters that nest.
-/

import FrozenGraph.Unicode.Blank

namespace FrozenGraph.Record.Token

/-- Whether a character separates tokens. -/
def isGap (character : Char) : Bool :=
  Unicode.isBlank character || character = '\u200E' || character = '\u200F'

/-- The remark that a scan is inside of; a delimited one counts the remarks around it. -/
inductive Remark where
  | none
  | line
  | delimited (depth : Nat)
deriving DecidableEq, Repr

/-- A text without its remarks; a space stands in the place of a delimited one. -/
def withoutRemarks : Remark → List Char → List Char
  | _, [] => []
  | .none, '/' :: '/' :: rest => withoutRemarks .line rest
  | .none, '/' :: '*' :: rest => withoutRemarks (.delimited 0) rest
  | .none, character :: rest => character :: withoutRemarks .none rest
  | .line, '\n' :: rest => '\n' :: withoutRemarks .none rest
  | .line, _ :: rest => withoutRemarks .line rest
  | .delimited depth, '/' :: '*' :: rest => withoutRemarks (.delimited (depth + 1)) rest
  | .delimited 0, '*' :: '/' :: rest => ' ' :: withoutRemarks .none rest
  | .delimited (depth + 1), '*' :: '/' :: rest => withoutRemarks (.delimited depth) rest
  | .delimited depth, _ :: rest => withoutRemarks (.delimited depth) rest

/-- A text without the gaps at its two ends. -/
def trimGaps (text : List Char) : List Char :=
  ((text.dropWhile isGap).reverse.dropWhile isGap).reverse

/-- A text without a byte order mark in front of it. -/
def dropOrderMark : List Char → List Char
  | '\uFEFF' :: rest => rest
  | other => other

/-- What a text holds between the gaps at its two ends. -/
def ofText (text : String) : String :=
  String.ofList (trimGaps (withoutRemarks .none (dropOrderMark text.toList)))

end FrozenGraph.Record.Token
