/-
This file writes scalars as literals of source text. A quoted literal stands on one line: line
ends and all other control characters are escaped, and so is the quote that surrounds it.
-/

import FrozenGraph.Graph.Scalar

namespace FrozenGraph

namespace Literal

/-- Whether a character is a control character. -/
def isControl (character : Char) : Bool :=
  character.toNat < 0x20 || (0x7F ≤ character.toNat && character.toNat ≤ 0x9F)

/-- One character between quotes of the given kind. -/
def escapedChar (quote character : Char) : List Char :=
  if character = '\\' then ['\\', '\\']
  else if character = '\n' then ['\\', 'n']
  else if character = '\r' then ['\\', 'r']
  else if character = '\t' then ['\\', 't']
  else if character = quote then ['\\', quote]
  else if isControl character then ['\\', 'u'] ++ Text.hex4 character.toNat
  else [character]

/-- A text between quotes of the given kind. -/
def quotedText (quote : Char) (text : List Char) : String :=
  String.ofList (quote :: text.flatMap (escapedChar quote) ++ [quote])

/-- A floating-point literal. The special values have no literal and are named as constants of
the boxed type. -/
def floatText (format : Decimal.Format) (boxed ending : String) (bits : Nat) : String :=
  match format.read bits with
  | .nan => boxed ++ ".NaN"
  | .infinite =>
    boxed ++ (if format.isNegative bits then ".NEGATIVE_INFINITY" else ".POSITIVE_INFINITY")
  | .finite magnitude =>
    Decimal.Style.literal.text (format.isNegative bits) magnitude.shortest ++ ending

end Literal

/-- A scalar as source text. -/
def Scalar.source : Scalar → String
  | .null => "null"
  | .bool value => Scalar.boolText value
  | .byte value => "(byte) " ++ toString value.toInt
  | .short value => "(short) " ++ toString value.toInt
  | .int value => toString value.toInt
  | .long value => toString value.toInt ++ "L"
  | .float bits => Literal.floatText .single "Float" "f" bits.toNat
  | .double bits => Literal.floatText .double "Double" "" bits.toNat
  | .char value => Literal.quotedText '\x27' [value]
  | .string value => Literal.quotedText '"' value.toList

end FrozenGraph
