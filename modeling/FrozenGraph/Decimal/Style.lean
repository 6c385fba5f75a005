/-
This file writes a decimal as text. A style says when the text is positional, and how a whole
number ends; a number that is not positional has one digit before the point and an exponent.
-/

import FrozenGraph.Decimal.Shortest

namespace FrozenGraph.Decimal

/-- The choices of one written form. -/
structure Style where
  /-- Whether a number whose first digit counts `10 ^ exponent` is written without an exponent. -/
  isPositional : Int → Bool
  /-- What follows the digits of a whole number that is written without an exponent. -/
  wholeEnding : String

/-- Exponents only outside `1e-4` to `1e16`; a whole number keeps one decimal place. -/
def Style.literal : Style := ⟨fun exponent => -4 ≤ exponent && exponent < 16, ".0"⟩

/-- Never an exponent, and no point in a whole number. -/
def Style.plain : Style := ⟨fun _ => true, ""⟩

/-- The digits of a number with the point after the first `point` of them. -/
def positional (wholeEnding : String) (digits : List Char) (point : Int) : String :=
  if point ≤ 0 then
    "0." ++ String.ofList (List.replicate (-point).toNat '0' ++ digits)
  else if digits.length ≤ point then
    String.ofList (digits ++ List.replicate (point.toNat - digits.length) '0') ++ wholeEnding
  else
    String.ofList (digits.take point.toNat) ++ "." ++ String.ofList (digits.drop point.toNat)

/-- One digit, the rest behind a point if there is a rest, and the exponent. -/
def scientific (digits : List Char) (exponent : Int) : String :=
  let rest := digits.drop 1
  let fraction := if rest.isEmpty then "" else "." ++ String.ofList rest
  String.ofList (digits.take 1) ++ fraction ++ "e" ++ toString exponent

/-- A decimal in a style, with the sign in front; zero counts as a whole number. -/
def Style.text (style : Style) (negative : Bool) (decimal : Decimal) : String :=
  let digits := Nat.toDigits 10 decimal.digits
  let exponent := decimal.exponent + digits.length - 1
  let sign := if negative then "-" else ""
  if decimal.digits = 0 then sign ++ "0" ++ style.wholeEnding
  else if style.isPositional exponent then
    sign ++ positional style.wholeEnding digits (exponent + 1)
  else sign ++ scientific digits exponent

end FrozenGraph.Decimal
