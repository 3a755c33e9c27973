import TokenEditor.Proofs.Visiting

/-!
# Scanning for the bounds of a run

A run can also be grown without a count: from the start on, every place that is admitted and is not
behind the start becomes the first of the run, and what follows a place that is admitted and is not
before the start becomes its end. The bounds are those that are computed from the count.
-/

namespace TokenEditor

structure Bounds where
  first : Option Value
  stop : Option Value

namespace Bounds

def unset : Bounds := ⟨none, none⟩

/-- The bounds once a place has been admitted. The start is at `place`, and keeps its form. -/
def widen (bounds : Bounds) (start : Value) (place : Nat) (visit : Int) : Bounds where
  first :=
    if visit ≤ place then some (if visit = place then start else .int visit) else bounds.first
  stop := if place ≤ visit then some (.int (visit + 1)) else bounds.stop

def run? : Bounds → Option (Value × Value)
  | ⟨some first, some stop⟩ => some (first, stop)
  | _ => none

end Bounds

namespace Growth

/-- The bounds of a run while the places from `visit` on are visited. -/
def scanFrom (ask : Int → Attempt Bool) (stride : Stride) (entries : List Entry) (start : Value)
    (place : Nat) (visit : Int) (bounds : Bounds) : Attempt Bounds :=
  if Inside entries visit then do
    if ← ask visit then
      scanFrom ask stride entries start place (visit + stride.sign) (bounds.widen start place visit)
    else return bounds
  else return bounds
termination_by if stride.forward then (entries.length - visit).toNat else (visit + 1).toNat
decreasing_by
  rw [Stride.sign]
  obtain ⟨starts, stops⟩ := ‹Inside entries visit›
  cases stride.forward with
  | true =>
    simp only [if_true]
    omega
  | false =>
    simp only [Bool.false_eq_true, if_false]
    omega

def scan (host : Host) (view : View) (criterion : Criterion) (stride : Stride)
    (entries : List Entry) (start : Value) : Attempt (Option (Value × Value)) := do
  match ← start.place? entries.length with
  | none => return none
  | some place =>
      let ask := fun visit => judged host view criterion stride start place
        (entryAt entries visit, visit)
      let bounds ← scanFrom ask stride entries start place place .unset
      return bounds.run?

def selectByBounds (host : Host) (view : View) (entries : List Entry)
    (start step criterion anchor : Value) : Attempt (Option (Value × Value)) := do
  let criterion ← Criterion.ofValue view anchor criterion
  let stride ← Stride.ofValue view step
  scan host view criterion stride entries start

section Scanning

variable {stride : Stride} {start : Value} {place : Nat}

/-- The bounds of a run of `count` entries, in the form in which they are computed from it. -/
def reached (stride : Stride) (start : Value) (place count : Nat) : Bounds :=
  if count = 0 then .unset
  else ⟨some (ends stride start place count).1, some (ends stride start place count).2⟩

theorem run?_reached (stride : Stride) (start : Value) (place count : Nat) :
    (reached stride start place count).run? =
      if count = 0 then none else some (ends stride start place count) := by
  rw [reached]
  split <;> rfl

theorem widen_reached (stride : Stride) (start : Value) (place count : Nat) :
    (reached stride start place count).widen start place (place + stride.sign * count) =
      reached stride start place (count + 1) := by
  rw [reached, reached, if_neg (Nat.succ_ne_zero count), Bounds.widen, Stride.sign]
  cases direction : stride.forward with
  | true =>
    cases count with
    | zero => simp [ends, direction]
    | succ count =>
      have behind : ¬ (place : Int) + 1 * (count + 1 : Nat) ≤ place := by omega
      have after : (place : Int) ≤ place + 1 * (count + 1 : Nat) := by omega
      simp only [if_true, if_neg behind, if_pos after, ends, direction]
      simp
      omega
  | false =>
    cases count with
    | zero => simp [ends, direction]
    | succ count =>
      have before : (place : Int) + -1 * (count + 1 : Nat) ≤ place := by omega
      have apart : ¬ (place : Int) + -1 * (count + 1 : Nat) = place := by omega
      have ahead : ¬ (place : Int) ≤ place + -1 * (count + 1 : Nat) := by omega
      have there : (place : Int) + -1 * (count + 1 : Nat) = place + 1 - (count + 1 + 1 : Nat) := by
        omega
      simp only [Bool.false_eq_true, if_false, if_pos before, if_neg apart, if_neg ahead, ends,
        direction]
      rw [there]
      simp

theorem scanFrom_reached {ask : Int → Attempt Bool} {entries : List Entry}
    (inside : place < entries.length) {left count : Nat}
    (reaches : count + left = stride.reach entries.length place) :
    scanFrom ask stride entries start place (place + stride.sign * count)
        (reached stride start place count) = (do
      let more ← admitted (fun visit : Nat => ask (place + stride.sign * visit))
        (List.range' count left)
      return reached stride start place (count + more)) := by
  induction left generalizing count with
  | zero =>
    have outside : ¬ Inside entries (place + stride.sign * count) := by
      rw [Stride.inside_iff inside]
      omega
    rw [scanFrom, if_neg outside]
    rfl
  | succ left ih =>
    have within : Inside entries (place + stride.sign * count) := by
      rw [Stride.inside_iff inside]
      omega
    have further : (place : Int) + stride.sign * count + stride.sign =
        place + stride.sign * (count + 1 : Nat) := by
      rw [Int.natCast_add, Int.mul_add]
      simp [Int.add_assoc]
    rw [scanFrom, if_pos within, List.range'_succ, admitted, bind_assoc]
    congr 1
    funext accepted
    cases accepted with
    | true =>
      rw [if_pos rfl, if_pos rfl, widen_reached, further, ih (by omega), bind_assoc]
      simp only [pure_bind, Nat.add_assoc, Nat.add_comm 1]
    | false => rfl

theorem scanFrom_unset {entries : List Entry} (inside : place < entries.length)
    (ask : Int → Attempt Bool) (stride : Stride) (start : Value) :
    scanFrom ask stride entries start place place .unset = (do
      let count ← admitted (fun visit : Nat => ask (place + stride.sign * visit))
        (List.range (stride.reach entries.length place))
      return reached stride start place count) := by
  have here : (place : Int) + stride.sign * (0 : Nat) = place := by simp
  have scanned := @scanFrom_reached stride start place ask entries inside _ 0 (Nat.zero_add _)
  rw [here, ← List.range_eq_range'] at scanned
  simp only [Nat.zero_add] at scanned
  exact scanned

/-- The bounds that a count comes to are those that are found by a scan. -/
theorem grow_eq_scan (host : Host) (view : View) (criterion : Criterion) (stride : Stride)
    (entries : List Entry) (start : Value) :
    grow host view criterion stride entries start =
      scan host view criterion stride entries start := by
  cases placed : start.place? entries.length with
  | error fault =>
    rw [grow, scan, placed]
    rfl
  | ok place? =>
    cases place? with
    | none =>
      rw [grow, scan, placed]
      rfl
    | some place =>
      obtain ⟨-, inside⟩ := Value.whole?_of_place? placed
      rw [grow_of_place placed, visited, admitted_map, scan, placed, Attempt.liftM_ok, pure_bind]
      dsimp only
      rw [scanFrom_unset inside, bind_assoc]
      simp only [pure_bind, run?_reached]

theorem select_eq_selectByBounds (host : Host) (view : View) (entries : List Entry)
    (start step criterion anchor : Value) :
    select host view entries start step criterion anchor =
      selectByBounds host view entries start step criterion anchor := by
  simp only [select, selectByBounds, grow_eq_scan]

end Scanning

end Growth

end TokenEditor
