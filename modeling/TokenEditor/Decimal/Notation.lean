import TokenEditor.Decimal.Shortest

/-!
# Written decimals

How a double is written: positionally while its exponent is moderate, otherwise with one digit
before the point and a signed exponent.
-/

namespace TokenEditor.Decimal

/-- The decisions that a written form leaves open. -/
structure Style where
  leastPositional : Int
  greatestPositional : Int
  exponentWidth : Nat
  notANumber : String
  infinity : String

/-- Exponents from -4 to 15 are written positionally, the others with at least two digits. -/
def style : Style := ⟨-4, 15, 2, "nan", "inf"⟩

def zeros (count : Int) : List Char := List.replicate count.toNat '0'

/-- Digits around a point that stands after the first `point` of them. -/
def positional (digits : List Char) (point : Int) : List Char :=
  if point ≤ 0 then '0' :: '.' :: zeros (-point) ++ digits
  else if digits.length ≤ point then digits ++ zeros (point - digits.length) ++ ['.', '0']
  else digits.take point.toNat ++ '.' :: digits.drop point.toNat

def scientific (digits : List Char) (exponent : Int) : List Char :=
  let fraction := if digits.length ≤ 1 then [] else '.' :: digits.drop 1
  let written := Nat.toDigits 10 exponent.natAbs
  digits.take 1 ++ fraction ++ ['e', if exponent < 0 then '-' else '+'] ++
    zeros ((style.exponentWidth : Int) - written.length) ++ written

/-- The written form of a number; zeros at the end of its digits say nothing. -/
def Digits.write (number : Digits) : List Char :=
  let all := Nat.toDigits 10 number.digits
  let exponent := all.length - 1 + number.scale
  let kept := (all.reverse.dropWhile (· == '0')).reverse
  if style.leastPositional ≤ exponent ∧ exponent ≤ style.greatestPositional then
    positional kept (exponent + 1)
  else scientific kept exponent

def signed (negative : Bool) (text : String) : String := if negative then "-" ++ text else text

/-- The shortest text that reads back as `x`, with the sign of a zero kept. -/
def write (x : Float) : String :=
  match Binary.ofFloat x with
  | .notANumber => style.notANumber
  | .infinite negative => signed negative style.infinity
  | .finite negative 0 _ => signed negative "0.0"
  | .finite negative significand exponent =>
      signed negative (String.ofList (Rounding.ofBinary significand exponent).shortest.write)

end TokenEditor.Decimal
