/-
This file reads and writes layout options as JSON. Reading is strict: one object with at most the
one known member, given at most once, or one array with at most its value; the value is a whole
number of 64 bits without fraction or exponent. What is not given keeps its standard.
-/

import FrozenGraph.Report
import FrozenGraph.Source.Layout
import FrozenGraph.Text.Json

namespace FrozenGraph.Layout.Options

/-! ### Tokens -/

/-- White space between tokens. -/
def isGap (character : Char) : Bool :=
  character = ' ' || character = '\t' || character = '\n' || character = '\r'

/-- A text without the white space in front of it. -/
def skipGap (text : List Char) : List Char :=
  text.dropWhile isGap

/-- The text after a punctuation mark, which has to come next. -/
def expect? (mark : Char) (text : List Char) : Option (List Char) :=
  match skipGap text with
  | [] => none
  | first :: rest => if first = mark then some rest else none

/-- Whether a text holds nothing but white space. -/
def isDone (text : List Char) : Bool :=
  (skipGap text).isEmpty

/-- The value of a hexadecimal digit. -/
def hexDigit? (character : Char) : Option Nat :=
  if character.isDigit then some (character.toNat - '0'.toNat)
  else if 'a' ≤ character ∧ character ≤ 'f' then some (character.toNat - 'a'.toNat + 10)
  else if 'A' ≤ character ∧ character ≤ 'F' then some (character.toNat - 'A'.toNat + 10)
  else none

/-- The value of several hexadecimal digits. -/
def hexValue? (digits : List Char) : Option Nat :=
  digits.foldlM (fun value digit => (hexDigit? digit).map (16 * value + ·)) 0

/-- The text after one character of a string, which stands for itself or is escaped by its code. -/
def stringChar? (wanted : Char) : List Char → Option (List Char)
  | '\\' :: 'u' :: a :: b :: c :: d :: rest =>
    if hexValue? [a, b, c, d] = some wanted.toNat then some rest else none
  | first :: rest => if first = wanted then some rest else none
  | [] => none

/-- The text after the rest of a string, its closing quote included. -/
def stringRest? : (wanted : List Char) → List Char → Option (List Char)
  | [], text => match text with
    | '"' :: rest => some rest
    | _ => none
  | first :: others, text => (stringChar? first text).bind (stringRest? others)

/-- The name of the one member. -/
def memberName : String :=
  "indent_width"

/-- The text after the name of the member. -/
def member? (text : List Char) : Option (List Char) :=
  (expect? '"' text).bind (stringRest? memberName.toList)

/-- A whole number below `2 ^ 64`, and the text after it; a zero in front stands alone. -/
def number? (text : List Char) : Option (Nat × List Char) :=
  let text := skipGap text
  let digits := text.takeWhile Char.isDigit
  let rest := text.dropWhile Char.isDigit
  let value := digits.foldl (fun value digit => 10 * value + (digit.toNat - '0'.toNat)) 0
  if digits.isEmpty then none
  else if digits.head? = some '0' ∧ digits.length ≠ 1 then none
  else if value ≥ Nat.pow 2 64 then none
  else match rest with
    | '.' :: _ | 'e' :: _ | 'E' :: _ => none
    | _ => some (value, rest)

/-! ### The two forms -/

/-- The members of an object after its opening brace. -/
def ofObject? (text : List Char) : Option Options := do
  match expect? '\x7d' text with
  | some rest => if isDone rest then some standard else none
  | none =>
    let (width, rest) ← ((member? text).bind (expect? ':')).bind number?
    let rest ← expect? '\x7d' rest
    if isDone rest then some ⟨width⟩ else none

/-- The items of an array after its opening bracket. -/
def ofArray? (text : List Char) : Option Options := do
  match expect? ']' text with
  | some rest => if isDone rest then some standard else none
  | none =>
    let (width, rest) ← number? text
    let rest ← expect? ']' rest
    if isDone rest then some ⟨width⟩ else none

/-- The options that a JSON text holds. -/
def ofChars? (text : List Char) : Option Options :=
  match skipGap text with
  | '\x7b' :: rest => ofObject? rest
  | '[' :: rest => ofArray? rest
  | _ => none

/-- The report on a text that holds no options. -/
def unreadable (text : String) : Report :=
  (Report.ofFault (.invalid "format options" "could not parse JSON")).addText ("Input: " ++ text)

/-- Reads options. -/
def ofJson (text : String) : Except Report Options :=
  match ofChars? text.toList with
  | some options => .ok options
  | none => .error (unreadable text)

/-- Writes options. -/
def json (options : Options) : String :=
  "\x7b" ++ Text.jsonString memberName ++ ":" ++ toString options.indentWidth ++ "\x7d"

end FrozenGraph.Layout.Options
