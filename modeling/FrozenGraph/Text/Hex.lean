/-
This file writes numbers in hexadecimal with lower-case digits, plain or to a fixed width.
-/

namespace FrozenGraph.Text

/-- A number in hexadecimal, without zeros in front. -/
def hex (number : Nat) : List Char :=
  Nat.toDigits 16 number

/-- A number in hexadecimal, with zeros in front up to four digits. -/
def hex4 (number : Nat) : List Char :=
  let digits := hex number
  List.replicate (4 - digits.length) '0' ++ digits

end FrozenGraph.Text
