import TokenEditor.Proofs.Growth

/-!
# Visited places

From a place on, the places of a list are visited one by one in one direction. What a run meets
while it grows is what stands at the places that are visited.
-/

namespace TokenEditor

namespace Growth

def Inside (entries : List Entry) (place : Int) : Prop := 0 ≤ place ∧ place < entries.length

instance (entries : List Entry) (place : Int) : Decidable (Inside entries place) :=
  inferInstanceAs (Decidable (_ ∧ _))

def entryAt (entries : List Entry) (place : Int) : Entry := entries[place.toNat]?.getD none

/-- The first `count` places from `start` on in steps of `step`, each after what stands there. -/
def visited (entries : List Entry) (start step : Int) (count : Nat) : List (Entry × Int) :=
  (List.range count).map fun visit : Nat =>
    (entryAt entries (start + step * visit), start + step * visit)

section Visiting

variable {entries : List Entry} {start step : Int}

theorem entryAt_of_toNat {place : Int} {i : Nat} (within : i < entries.length)
    (same : place.toNat = i) : entryAt entries place = entries[i] := by
  rw [entryAt, same, List.getElem?_eq_getElem within]
  rfl

theorem length_visited (count : Nat) : (visited entries start step count).length = count := by
  rw [visited, List.length_map, List.length_range]

theorem take_visited (first count : Nat) :
    (visited entries start step count).take first =
      visited entries start step (min first count) := by
  rw [visited, ← List.map_take, List.take_range]
  rfl

theorem mem_visited {count : Nat} {visit : Entry × Int} :
    visit ∈ visited entries start step count ↔ ∃ i < count,
      (entryAt entries (start + step * (i : Nat)), start + step * (i : Nat)) = visit := by
  simp [visited]

theorem getElem?_visited {visit count : Nat} (within : visit < count) :
    (visited entries start step count)[visit]? =
      some (entryAt entries (start + step * visit), start + step * visit) := by
  rw [visited, List.getElem?_map, List.getElem?_range within]
  rfl

end Visiting

theorem admitted_map {α β : Type} (ask : β → Attempt Bool) (f : α → β) (met : List α) :
    admitted ask (met.map f) = admitted (fun a => ask (f a)) met := by
  induction met with
  | nil => rfl
  | cons a rest ih => rw [List.map_cons, admitted, admitted, ih]

end Growth

namespace Stride

def sign (stride : Stride) : Int := if stride.forward then 1 else -1

/-- How many entries there are from `place` on, with the one there. -/
def reach (stride : Stride) (length place : Nat) : Nat :=
  if stride.forward then length - place else place + 1

variable {stride : Stride} {entries : List Entry} {place : Nat}

theorem inside_iff (inside : place < entries.length) (visit : Nat) :
    Growth.Inside entries (place + stride.sign * visit) ↔
      visit < stride.reach entries.length place := by
  rw [Growth.Inside, sign, reach]
  cases stride.forward with
  | true =>
    simp only [if_true]
    omega
  | false =>
    simp only [Bool.false_eq_true, if_false]
    omega

theorem length_met (inside : place < entries.length) :
    (stride.met entries place).length = stride.reach entries.length place := by
  cases direction : stride.forward with
  | true => rw [Growth.length_met_of_forward direction, reach, if_pos direction]
  | false =>
    rw [Growth.length_met_of_backward direction, reach, direction, if_neg Bool.false_ne_true]
    omega

theorem met_eq_visited (inside : place < entries.length) :
    (stride.met entries place).map (fun met => (met.1, (met.2 : Int))) =
      Growth.visited entries place stride.sign (stride.reach entries.length place) := by
  apply List.ext_getElem
  · rw [List.length_map, length_met inside, Growth.length_visited]
  · intro visit before _
    rw [List.length_map, length_met inside] at before
    simp only [Growth.visited, List.getElem_map, List.getElem_range]
    cases direction : stride.forward with
    | true =>
      have here : (place : Int) + stride.sign * visit = (place + visit : Nat) := by
        rw [sign, if_pos direction]
        omega
      rw [reach, if_pos direction] at before
      have within : place + visit < entries.length := by omega
      rw [here, Growth.entryAt_of_toNat within (Int.toNat_natCast _)]
      simp [met, direction]
    | false =>
      rw [reach, direction, if_neg Bool.false_ne_true] at before
      have here : (place : Int) + stride.sign * visit = (place - visit : Nat) := by
        rw [sign, direction, if_neg Bool.false_ne_true]
        omega
      have within : place - visit < entries.length := by omega
      have last : min (place + 1) entries.length - 1 - visit = place - visit := by omega
      rw [here, Growth.entryAt_of_toNat within (Int.toNat_natCast _)]
      simp [met, direction, last]

end Stride

namespace Growth

/-- What the criterion says of an entry at a place. The start is at `place`, and keeps its form. -/
def judged (host : Host) (view : View) (criterion : Criterion) (stride : Stride) (start : Value)
    (place : Nat) (visit : Entry × Int) : Attempt Bool :=
  if visit.2 = place then criterion.admits host view visit.1 start
  else if stride.whole then criterion.admits host view visit.1 (.int visit.2)
  else .fail .wrongKind

theorem grow_of_place {host : Host} {view : View} {criterion : Criterion} {stride : Stride}
    {entries : List Entry} {start : Value} {place : Nat}
    (placed : start.place? entries.length = .ok (some place)) :
    grow host view criterion stride entries start = (do
      let count ← admitted (judged host view criterion stride start place)
        (visited entries place stride.sign (stride.reach entries.length place))
      return if count = 0 then none else some (ends stride start place count)) := by
  obtain ⟨-, inside⟩ := Value.whole?_of_place? placed
  have asks : (fun met : Entry × Nat =>
      if met.2 = place then criterion.admits host view met.1 start
      else if stride.whole then criterion.admits host view met.1 (.int met.2)
      else .fail .wrongKind) =
      fun met => judged host view criterion stride start place (met.1, met.2) := by
    funext met
    simp only [judged, Int.natCast_inj]
  rw [grow, placed, Attempt.liftM_ok, pure_bind, ← Stride.met_eq_visited inside, admitted_map]
  dsimp only
  rw [asks]

end Growth

end TokenEditor
