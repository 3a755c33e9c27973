import TokenEditor.Entries.Basic

/-!
# Slices

A slice names its ends by places that may be counted from either end of a list, and steps from one
to the other. Ends outside the list are moved to it; a missing end is the one the step comes from or
goes to.
-/

namespace TokenEditor

structure Slice where
  start : Option Int
  stop : Option Int
  step : Int

namespace Slice

/-- An end of a slice of `length` places, moved between `least` and `greatest`. -/
def clamp (length least greatest place : Int) : Int :=
  let counted := if place < 0 then place + length else place
  max least (min greatest counted)

/-- The first place, and the place that is no longer taken. -/
def bounds (slice : Slice) (length : Int) : Int × Int :=
  if slice.step < 0 then
    let place := clamp length (-1) (length - 1)
    ((slice.start.map place).getD (length - 1), (slice.stop.map place).getD (-1))
  else
    let place := clamp length 0 length
    ((slice.start.map place).getD 0, (slice.stop.map place).getD length)

def count (slice : Slice) (length : Int) : Nat :=
  let (start, stop) := slice.bounds length
  let distance := if slice.step < 0 then start - stop else stop - start
  ((distance + slice.step.natAbs - 1) / slice.step.natAbs).toNat

def places (slice : Slice) (length : Nat) : List Nat :=
  (List.range (slice.count length)).map fun (k : Nat) =>
    ((slice.bounds length).1 + k * slice.step).toNat

def of {α : Type} (slice : Slice) (xs : List α) : List α :=
  let table := xs.toArray
  (slice.places xs.length).filterMap fun place => table[place]?

/-- The place that an index names, counted from the end when negative. -/
def place? (length : Nat) (index : Int) : Option Nat :=
  let counted := if index < 0 then index + length else index
  if 0 ≤ counted ∧ counted < length then some counted.toNat else none

end Slice

end TokenEditor
