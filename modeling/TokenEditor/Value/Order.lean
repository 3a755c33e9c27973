import TokenEditor.Value.Number
import TokenEditor.Value.View

/-!
# Equality and order of values

Numbers are equal by value whatever their kind, collections by their elements, cursors by where they
point, and sequences and callables by name. A collection also knows a member again that does not
equal itself. Numbers, texts, bytes and collections of one kind have an order.
-/

namespace TokenEditor.Value

/-- Whether two values name one and the same thing, which need not equal itself. -/
def isOne : Value → Value → Bool
  | nan i, nan j => i == j
  | sequence i, sequence j => i == j
  | item i, item j => i == j
  | range i, range j => i == j
  | _, _ => false

mutual

def isSame (view : View) : Value → Value → Bool
  | null, null => true
  | text s, text t => s == t
  | list a, list b => areSame view a b
  | tuple a, tuple b => areSame view a b
  | bytes a, bytes b => a == b
  | dict a, dict b => a.length == b.length && areHeld view a b
  | literal a, literal b => areSame view a b
  | transform f, transform g => f.isOne g || isSame view f g
  | function f, function g => f == g
  | predicate f, predicate g => f == g
  | sequence a, sequence b => a == b
  | item a, item b => view.itemsAgree a b
  | range a, range b => view.rangesAgree a b
  | a, b =>
      match a.number?, b.number? with
      | some m, some n => m.isSame n
      | _, _ => false

def areSame (view : View) : List Value → List Value → Bool
  | [], [] => true
  | a :: as, b :: bs => (a.isOne b || isSame view a b) && areSame view as bs
  | _, _ => false

/-- Whether `others` has each of these keys, with the same value. -/
def areHeld (view : View) : List (String × Value) → List (String × Value) → Bool
  | [], _ => true
  | (key, value) :: rest, others =>
      (match others.lookup key with
        | some other => value.isOne other || isSame view value other
        | none => false) && areHeld view rest others

end

/-- Whether a collection takes two members for the same. -/
def isSameMember (view : View) (a b : Value) : Bool := a.isOne b || a.isSame view b

mutual

/-- Whether the first value comes before the second, where the two have an order. -/
def isBefore (view : View) : Value → Value → Except Fault Bool
  | text s, text t => .ok (s < t)
  | bytes a, bytes b => .ok (a < b)
  | list a, list b => areBefore view a b
  | tuple a, tuple b => areBefore view a b
  | a, b => do return (← a.number).isLess (← b.number)

/-- The first members that differ decide; with none, the shorter collection comes first. -/
def areBefore (view : View) : List Value → List Value → Except Fault Bool
  | [], others => .ok (!others.isEmpty)
  | _ :: _, [] => .ok false
  | a :: as, b :: bs => if isSameMember view a b then areBefore view as bs else isBefore view a b

end

mutual

/-- Whether a value never changes, so that it can be a member of a set. -/
def isSettled : Value → Bool
  | list _ | dict _ | item _ | range _ => false
  | tuple items | literal items => areSettled items
  | transform callable => isSettled callable
  | _ => true

def areSettled : List Value → Bool
  | [] => true
  | value :: rest => isSettled value && areSettled rest

end

/-- The members of a set: of equal values the first is kept. None of them has a cursor in it. -/
def distinct (values : List Value) : List Value :=
  (values.foldl
    (fun kept value =>
      if kept.any (isSameMember View.empty · value) then kept else value :: kept)
    []).reverse

@[simp] theorem isSame_text (view : View) (s t : String) :
    isSame view (text s) (text t) = (s == t) := by
  simp [isSame]

@[simp] theorem isSameMember_text (view : View) (s t : String) :
    isSameMember view (text s) (text t) = (s == t) := by
  simp [isSameMember, isOne]

end TokenEditor.Value
