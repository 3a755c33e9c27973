import TokenEditor.Decimal.Binary

/-!
# Shortest decimals

The decimal of fewest digits that reads back as a given double. For one, two, … seventeen digits the
two neighbours of the value on that decimal grid are tried; the first grid with a neighbour inside
the interval of reals that round to the value wins, and of two such neighbours the nearer, a tie
going to the even one. All arithmetic is on whole numbers.
-/

namespace TokenEditor.Decimal

/-- The number `digits * 10 ^ scale`. -/
structure Digits where
  digits : Nat
  scale : Int

/-- A positive number and the ends of the interval that rounds to it, over one denominator. -/
structure Rounding where
  low : Nat
  value : Nat
  high : Nat
  denominator : Nat
  closed : Bool

namespace Rounding

/-- Neighbouring doubles lie one unit apart, save that below a power of two they lie half as far. -/
def ofBinary (significand : Nat) (exponent : Int) : Rounding :=
  let below := if significand = Nat.pow 2 52 ∧ exponent ≠ -1074 then 1 else 2
  let units := exponent - 2
  let up := if units < 0 then 1 else Nat.pow 2 units.natAbs
  let down := if units < 0 then Nat.pow 2 units.natAbs else 1
  ⟨(4 * significand - below) * up, 4 * significand * up, (4 * significand + 2) * up, down,
    significand % 2 == 0⟩

/-- Whether the fraction `n / d` rounds to the value. -/
def holds (r : Rounding) (n d : Nat) : Bool :=
  let low := r.low * d
  let high := r.high * d
  let here := n * r.denominator
  (low < here && here < high) || (r.closed && (low == here || here == high))

def countDigits (n : Nat) : Nat := if n = 0 then 0 else (Nat.toDigits 10 n).length

/-- The number of digits before the point; for a small value, less the zeros after it. -/
def magnitude (r : Rounding) : Int :=
  if r.denominator ≤ r.value then countDigits (r.value / r.denominator)
  else 1 - countDigits ((r.denominator - 1) / r.value)

/-- The neighbour of the value with `count` digits that rounds to it, if there is one. -/
def withDigits? (r : Rounding) (count : Nat) : Option Digits :=
  let scale : Int := r.magnitude - count
  let up := if scale < 0 then 1 else Nat.pow 10 scale.natAbs
  let down := if scale < 0 then Nat.pow 10 scale.natAbs else 1
  let top := r.value * down
  let bottom := r.denominator * up
  let floor := top / bottom
  let belowHolds := r.holds (floor * up) down
  let aboveHolds := r.holds ((floor + 1) * up) down
  let twice := 2 * (top % bottom)
  let pickBelow := twice < bottom || (twice == bottom && floor % 2 == 0)
  match belowHolds, aboveHolds with
  | true, true => some ⟨if pickBelow then floor else floor + 1, scale⟩
  | true, false => some ⟨floor, scale⟩
  | false, true => some ⟨floor + 1, scale⟩
  | false, false => none

/-- Seventeen digits always tell a double apart, so the last case is for form. -/
def shortest (r : Rounding) : Digits :=
  ((List.range' 1 17).findSome? r.withDigits?).getD ⟨r.value / r.denominator, 0⟩

end Rounding

end TokenEditor.Decimal
