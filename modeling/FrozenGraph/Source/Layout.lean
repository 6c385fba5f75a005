/-
This file lays source text out: every line is trimmed and indented by the depth of the braces
around it. Braces inside string and character literals do not count, and a literal ends with its
line. A line that starts with a closing brace stands one level further out.
-/

import FrozenGraph.Unicode.Blank

namespace FrozenGraph.Layout

/-! ### Options -/

/-- How source text is laid out. -/
structure Options where
  indentWidth : Nat
deriving DecidableEq, Repr

/-- Two spaces for each level. -/
def Options.standard : Options :=
  ⟨2⟩

/-- The spaces of one level. -/
def Options.unit (options : Options) : List Char :=
  List.replicate options.indentWidth ' '

/-! ### The braces of a line -/

/-- Where a scan of a line stands. -/
inductive Place where
  | code
  | literal (quote : Char)
  | escape (quote : Char)
deriving DecidableEq, Repr

/-- The place after one more character. -/
def Place.next (place : Place) (character : Char) : Place :=
  match place with
  | .code =>
    if character = '"' ∨ character = '\x27' then .literal character else .code
  | .literal quote =>
    if character = '\\' then .escape quote
    else if character = quote then .code
    else .literal quote
  | .escape quote => .literal quote

/-- What a character at a place adds to the depth of braces. -/
def Place.weight (place : Place) (character : Char) : Int :=
  if place ≠ .code then 0
  else if character = '\x7b' then 1
  else if character = '\x7d' then -1
  else 0

/-- The opening braces less the closing ones, from a place to the end of a line. -/
def balanceFrom : Place → List Char → Int
  | _, [] => 0
  | place, character :: rest => place.weight character + balanceFrom (place.next character) rest

/-- The opening braces of a line less its closing ones. -/
def balance (line : List Char) : Int :=
  balanceFrom .code line

/-! ### The lines of a text -/

/-- The pieces between line ends; there is one more of them than line ends. -/
def splitLines : List Char → List (List Char)
  | [] => [[]]
  | character :: rest =>
    if character = '\n' then [] :: splitLines rest
    else match splitLines rest with
      | [] => [[character]]
      | first :: others => (character :: first) :: others

/-- The lines of a text; nothing after the last line end is no line. -/
def lines (text : List Char) : List (List Char) :=
  let pieces := splitLines text
  if pieces.getLast? = some [] then pieces.dropLast else pieces

/-- Lines with line ends between them. -/
def joinLines : List (List Char) → List Char
  | [] => []
  | [line] => line
  | line :: rest => line ++ '\n' :: joinLines rest

/-! ### Indentation -/

/-- A trimmed line at the depth of braces in front of it; a blank line stays empty. -/
def indentLine (unit : List Char) (depth : Nat) (line : List Char) : List Char :=
  match line with
  | [] => []
  | first :: _ =>
    let level := if first = '\x7d' then depth - 1 else depth
    (List.replicate level unit).flatten ++ line

/-- The depth after a line; closing braces without an opening one are ignored. -/
def depthAfter (depth : Nat) (line : List Char) : Nat :=
  (depth + balance line).toNat

/-- Trimmed lines indented one after the other. -/
def indentLines (unit : List Char) : Nat → List (List Char) → List (List Char)
  | _, [] => []
  | depth, line :: rest =>
    indentLine unit depth line :: indentLines unit (depthAfter depth line) rest

/-- The layout of a text as characters. -/
def formatChars (options : Options) (source : List Char) : List Char :=
  joinLines (indentLines options.unit 0 ((lines source).map Unicode.trim))

/-- The layout of a text. -/
def format (options : Options) (source : String) : String :=
  String.ofList (formatChars options source.toList)

end FrozenGraph.Layout
