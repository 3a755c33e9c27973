import TokenEditor.Decimal.Binary
import TokenEditor.Fault
import TokenEditor.Value.Basic

/-!
# Numbers among the values

Truth values count as 0 and 1. Whole numbers and doubles are compared exactly; a sum with a double
is a double, and fails for a whole number that is beyond them.
-/

namespace TokenEditor

inductive Number where
  | whole (i : Int)
  | real (x : Float)

namespace Number

/-- The order of two numbers; what is not a number has none. -/
def compare? : Number → Number → Option Ordering
  | whole i, whole j => some (compare i j)
  | real x, whole j => (Decimal.Binary.ofFloat x).compareInt? j
  | whole i, real y => ((Decimal.Binary.ofFloat y).compareInt? i).map Ordering.swap
  | real x, real y => if x < y then some .lt else if x == y then some .eq
      else if x > y then some .gt else none

def isLess (a b : Number) : Bool := a.compare? b == some .lt

def isAtMost (a b : Number) : Bool :=
  match a.compare? b with
  | some order => order.isLE
  | none => false

def isSame (a b : Number) : Bool := a.compare? b == some .eq

/-- The double nearest to a number; whole numbers from `Decimal.Binary.beyond` on have none. -/
def toFloat : Number → Except Fault Float
  | whole i => if i.natAbs < Decimal.Binary.beyond then .ok (Float.ofInt i) else .error .tooLarge
  | real x => .ok x

def plus : Number → Number → Except Fault Number
  | whole i, whole j => .ok (whole (i + j))
  | a, b => do return real ((← a.toFloat) + (← b.toFloat))

def minus : Number → Number → Except Fault Number
  | whole i, whole j => .ok (whole (i - j))
  | a, b => do return real ((← a.toFloat) - (← b.toFloat))

def toValue : Number → Value
  | whole i => .int i
  | real x => .float x

@[simp] theorem isAtMost_whole (i j : Int) : (whole i).isAtMost (whole j) = decide (i ≤ j) := by
  simp only [isAtMost, compare?]
  rcases Int.lt_trichotomy i j with less | rfl | more
  · simp [Int.compare_eq_lt.mpr less, Int.le_of_lt less]
  · simp
  · simp [Int.compare_eq_gt.mpr more, Int.not_le.mpr more]

@[simp] theorem isLess_whole (i j : Int) : (whole i).isLess (whole j) = decide (i < j) := by
  simp only [isLess, compare?]
  rcases Int.lt_trichotomy i j with less | rfl | more
  · simp [Int.compare_eq_lt.mpr less, less]
  · simp
  · simp [Int.compare_eq_gt.mpr more, Int.le_of_lt more]

@[simp] theorem isSame_whole (i j : Int) : (whole i).isSame (whole j) = decide (i = j) := by
  simp only [isSame, compare?]
  rcases Int.lt_trichotomy i j with less | rfl | more
  · simp [Int.compare_eq_lt.mpr less, Int.ne_of_lt less]
  · simp
  · simp [Int.compare_eq_gt.mpr more, Int.ne_of_gt more]

end Number

namespace Value

def number? : Value → Option Number
  | float x => some (.real x)
  | nan _ => some (.real (0.0 / 0.0))
  | value => value.whole?.map .whole

@[simp] theorem number?_int (i : Int) : (int i).number? = some (.whole i) := rfl

/-- The number that a value counts as, where no other value will do. -/
def number (value : Value) : Except Fault Number :=
  match value.number? with
  | some n => .ok n
  | none => .error .wrongKind

def whole (value : Value) : Except Fault Int :=
  match value.whole? with
  | some i => .ok i
  | none => .error .wrongKind

@[simp] theorem number_int (i : Int) : (int i).number = .ok (.whole i) := rfl

@[simp] theorem whole_int (i : Int) : (int i).whole = .ok i := rfl

def shift (value : Value) (amount : Int) : Except Fault Value := do
  return (← (← value.number).plus (.whole amount)).toValue

@[simp] theorem shift_int (i amount : Int) : (int i).shift amount = .ok (int (i + amount)) := rfl

def sum (a b : Value) : Except Fault Value := do
  return (← (← a.number).plus (← b.number)).toValue

def difference (a b : Value) : Except Fault Value := do
  return (← (← a.number).minus (← b.number)).toValue

/-- The place among `length` that a value names, if it lies among them; a double there is none. -/
def place? (value : Value) (length : Nat) : Except Fault (Option Nat) := do
  let n ← value.number
  if (Number.whole 0).isAtMost n && n.isLess (.whole length) then
    return some (← value.whole).toNat
  else
    return none

end Value

end TokenEditor
