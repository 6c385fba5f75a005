/-
This file reads the bit pattern of a binary floating-point number: its sign, and either an integer
times a power of two, or one of the two special values.
-/

namespace FrozenGraph.Decimal

/-- The widths of the two lower fields of a bit pattern; the sign stands above them. -/
structure Format where
  fractionBits : Nat
  exponentBits : Nat

namespace Format

/-- The format of 32 bits. -/
def single : Format := ⟨23, 8⟩

/-- The format of 64 bits. -/
def double : Format := ⟨52, 11⟩

/-- The exponent of the unit in the last place of the smallest numbers. -/
def lowestExponent (format : Format) : Int :=
  2 - Nat.pow 2 (format.exponentBits - 1) - format.fractionBits

end Format

/-- A magnitude `mantissa * 2 ^ exponent`. It is `narrowBelow` when its lower neighbour is only
half as far away as its upper one. -/
structure Magnitude where
  mantissa : Nat
  exponent : Int
  narrowBelow : Bool

/-- What a bit pattern stands for, the sign apart. -/
inductive Reading where
  | nan
  | infinite
  | finite (magnitude : Magnitude)

/-- Whether the sign bit is set. -/
def Format.isNegative (format : Format) (bits : Nat) : Bool :=
  bits.testBit (format.fractionBits + format.exponentBits)

/-- The special values have all exponent bits set; the smallest exponent has no hidden bit. -/
def Format.read (format : Format) (bits : Nat) : Reading :=
  let fraction := bits % Nat.pow 2 format.fractionBits
  let biased := bits / Nat.pow 2 format.fractionBits % Nat.pow 2 format.exponentBits
  if biased = Nat.pow 2 format.exponentBits - 1 then
    if fraction = 0 then .infinite else .nan
  else if biased = 0 then
    .finite ⟨fraction, format.lowestExponent, false⟩
  else
    .finite ⟨Nat.pow 2 format.fractionBits + fraction, format.lowestExponent + (biased - 1 : Nat),
      fraction == 0 && biased != 1⟩

end FrozenGraph.Decimal
