/-!
# Binary floating point

A double taken apart: not a number, an infinity, or a sign with a whole multiple of a power of two.
Comparison with whole numbers is exact, without rounding either side.
-/

namespace TokenEditor.Decimal

/-- A double by its meaning; `finite` stands for `significand * 2 ^ exponent` with a sign. -/
inductive Binary where
  | notANumber
  | infinite (negative : Bool)
  | finite (negative : Bool) (significand : Nat) (exponent : Int)

namespace Binary

/-- The least whole number that is too large for the doubles: it lies halfway between the largest of
them and the next power of two, and rounds up. -/
def beyond : Nat := Nat.pow 2 1024 - Nat.pow 2 970

/-- Splits the 64 bits into sign, exponent and fraction; the smallest exponent has no hidden bit. -/
def ofFloat (x : Float) : Binary :=
  let bits := x.toBits.toNat
  let negative := bits / Nat.pow 2 63 == 1
  let field : Nat := bits / Nat.pow 2 52 % Nat.pow 2 11
  let fraction := bits % Nat.pow 2 52
  if field = 2047 then
    if fraction = 0 then infinite negative else notANumber
  else if field = 0 then finite negative fraction (-1074)
  else finite negative (Nat.pow 2 52 + fraction) ((field : Int) - 1075)

def compareFinite (negative : Bool) (significand : Nat) (exponent : Int) (n : Int) : Ordering :=
  let signed : Int := if negative then -significand else significand
  let power : Int := Int.ofNat (Nat.pow 2 exponent.natAbs)
  if exponent < 0 then compare signed (n * power) else compare (signed * power) n

/-- The order of a double and a whole number; what is not a number has none. -/
def compareInt? : Binary → Int → Option Ordering
  | notANumber, _ => none
  | infinite negative, _ => some (if negative then .lt else .gt)
  | finite negative significand exponent, n =>
      some (compareFinite negative significand exponent n)

end Binary

end TokenEditor.Decimal
