/-
This file holds decimal numbers: an integer times a power of ten.
-/

namespace FrozenGraph

/-- The number `digits * 10 ^ exponent`. -/
structure Decimal where
  digits : Nat
  exponent : Int
deriving DecidableEq, Repr

namespace Decimal

/-- Moves up to `steps` zeros at the end of the digits into the exponent. -/
def dropZeros : (steps : Nat) → Decimal → Decimal
  | 0, decimal => decimal
  | steps + 1, decimal =>
    if decimal.digits ≠ 0 ∧ decimal.digits % 10 = 0 then
      dropZeros steps ⟨decimal.digits / 10, decimal.exponent + 1⟩
    else decimal

end Decimal

end FrozenGraph
