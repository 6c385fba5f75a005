/-
This file chooses the shortest decimal that reads back as a given binary number. Reading rounds to
the nearest binary number, and a number halfway between two goes to the even mantissa, so the
decimals that read back fill an interval, whose ends belong to it exactly when the mantissa is
even. The coarsest decimal grid with a point in the interval wins; of two points the nearer wins,
and a tie goes up.
-/

import FrozenGraph.Decimal.Basic
import FrozenGraph.Decimal.Binary

namespace FrozenGraph.Decimal

/-- The decimals that read back as one binary number, over a common denominator. -/
structure Interval where
  lower : Nat
  value : Nat
  upper : Nat
  denominator : Nat
  closed : Bool

/-- The interval reaches half-way to both neighbours. -/
def Magnitude.interval (magnitude : Magnitude) : Interval :=
  let scale := Nat.pow 2 (magnitude.exponent - 2).toNat
  let below := if magnitude.narrowBelow then 1 else 2
  { lower := (4 * magnitude.mantissa - below) * scale
    value := 4 * magnitude.mantissa * scale
    upper := (4 * magnitude.mantissa + 2) * scale
    denominator := Nat.pow 2 (2 - magnitude.exponent).toNat
    closed := magnitude.mantissa % 2 = 0 }

namespace Interval

/-- The whole number that `count` units of the grid `10 ^ exponent` make over the denominator,
where `scaled` brings the interval's own numbers to the same scale. -/
def gridPoint (interval : Interval) (exponent : Int) (count : Nat) : Nat :=
  count * Nat.pow 10 exponent.toNat * interval.denominator

/-- A number of the interval at the scale of `gridPoint`. -/
def scaled (exponent : Int) (number : Nat) : Nat :=
  number * Nat.pow 10 (-exponent).toNat

/-- Whether a point of a grid reads back. -/
def contains (interval : Interval) (exponent : Int) (count : Nat) : Bool :=
  let point := interval.gridPoint exponent count
  let lower := scaled exponent interval.lower
  let upper := scaled exponent interval.upper
  if interval.closed then lower ≤ point && point ≤ upper else lower < point && point < upper

/-- The last point of a grid that is not above the value. -/
def floor (interval : Interval) (exponent : Int) : Nat :=
  scaled exponent interval.value / interval.gridPoint exponent 1

/-- The point of a grid that reads back: the nearer of the value's two neighbours. -/
def onGrid (interval : Interval) (exponent : Int) : Option Nat :=
  let below := interval.floor exponent
  match interval.contains exponent below, interval.contains exponent (below + 1) with
  | true, true =>
    let value := scaled exponent interval.value
    let short := value - interval.gridPoint exponent below
    let excess := interval.gridPoint exponent (below + 1) - value
    if short < excess then some below else some (below + 1)
  | true, false => some below
  | false, true => some (below + 1)
  | false, false => none

/-- Refines the grid step by step until a point of it reads back. -/
def refine (interval : Interval) : Nat → Int → Decimal
  | 0, exponent => ⟨interval.floor exponent, exponent⟩
  | steps + 1, exponent =>
    match interval.onGrid exponent with
    | some digits => ⟨digits, exponent⟩
    | none => interval.refine steps (exponent - 1)

/-- Goes down from `exponent` to the first grid that has a point from one up to the value. -/
def leadingExponent (interval : Interval) : Nat → Int → Int
  | 0, exponent => exponent
  | steps + 1, exponent =>
    if interval.floor exponent = 0 then interval.leadingExponent steps (exponent - 1)
    else exponent

end Interval

/-- The shortest decimal that reads back as a magnitude; zero is `0 * 10 ^ 0`. Three bits
make less than one digit, and a number has at most as many decimal places as binary ones. -/
def Magnitude.shortest (magnitude : Magnitude) : Decimal :=
  if magnitude.mantissa = 0 then ⟨0, 0⟩
  else
    let interval := magnitude.interval
    let highest : Nat := (magnitude.mantissa.log2 + magnitude.exponent.toNat) / 3 + 1
    let places := highest + magnitude.exponent.natAbs + 2
    let leading := interval.leadingExponent places highest
    (interval.refine places leading).dropZeros places

end FrozenGraph.Decimal
