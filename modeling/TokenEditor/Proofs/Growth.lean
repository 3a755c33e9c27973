import TokenEditor.Growth
import TokenEditor.Proofs.Attempt
import TokenEditor.Proofs.Value.Whole

/-!
# Runs that have grown

A run that has grown lies within the entries and has the place from which it has grown in it, so
that it ends after it starts. Growing asks about entries and does nothing else.
-/

namespace TokenEditor

section Asking

variable {allowed : Event → Prop} (judged : ∀ entry index, allowed (.judged entry index))

include judged

theorem Host.only_ask (host : Host) (callable entry index : Value) :
    (host.ask callable entry index).Only allowed := by
  unfold ask
  split
  case h_1 => exact List.forall_mem_singleton.mpr (judged entry index)
  case h_2 => exact Attempt.only_fail _

theorem Criterion.only_admits (criterion : Criterion) (host : Host) (view : View) (entry : Entry)
    (index : Value) : (criterion.admits host view entry index).Only allowed := by
  cases criterion with
  | anchored => exact Attempt.only_pure _
  | spelled => exact Attempt.only_pure _
  | asking callable =>
    exact (host.only_ask judged callable _ index).bind fun answer => Attempt.only_pure _

end Asking

namespace Growth

theorem admitted_le {α : Type} {ask : α → Attempt Bool} {met : List α} {count : Nat}
    (counted : (admitted ask met).answer = .ok count) : count ≤ met.length := by
  induction met generalizing count with
  | nil =>
    cases counted
    exact Nat.le_refl 0
  | cons a rest ih =>
    obtain ⟨accepted, -, counts⟩ := Attempt.answer_bind_eq_ok.mp counted
    cases accepted with
    | true =>
      obtain ⟨more, found, done⟩ := Attempt.answer_bind_eq_ok.mp counts
      cases done
      exact Nat.succ_le_succ (ih found)
    | false =>
      cases counts
      exact Nat.zero_le _

theorem length_met_of_forward {stride : Stride} (forward : stride.forward = true)
    (entries : List Entry) (place : Nat) :
    (stride.met entries place).length = entries.length - place := by
  simp [Stride.met, forward]

theorem length_met_of_backward {stride : Stride} (backward : stride.forward = false)
    (entries : List Entry) (place : Nat) :
    (stride.met entries place).length = min (place + 1) entries.length := by
  simp [Stride.met, backward]

/-- The ends of a run among `length` entries that has the entry at `place` in it. -/
def Surrounds (length place : Nat) (first last : Value) : Prop :=
  ∃ s e : Nat, first.whole? = some (s : Int) ∧ last.whole? = some (e : Int) ∧
    s ≤ place ∧ place < e ∧ e ≤ length

theorem ends_surround {stride : Stride} {entries : List Entry} {start : Value} {place count : Nat}
    (counts : start.whole? = some (place : Int)) (inside : place < entries.length)
    (nonempty : 0 < count) (within : count ≤ (stride.met entries place).length) :
    Surrounds entries.length place (ends stride start place count).1
      (ends stride start place count).2 := by
  cases direction : stride.forward with
  | true =>
    rw [length_met_of_forward direction] at within
    refine ⟨place, place + count, ?_, ?_, Nat.le_refl place, by omega, by omega⟩
    · simpa [ends, direction] using counts
    · simp [ends, direction]
  | false =>
    rw [length_met_of_backward direction] at within
    refine ⟨place + 1 - count, place + 1, ?_, ?_, by omega, by omega, by omega⟩
    · by_cases single : count = 1
      · simpa [ends, direction, single] using counts
      · simp [ends, direction, single]
        omega
    · simp [ends, direction]

theorem grow_surrounds {host : Host} {view : View} {criterion : Criterion} {stride : Stride}
    {entries : List Entry} {start first last : Value}
    (found : (grow host view criterion stride entries start).answer = .ok (some (first, last))) :
    ∃ place : Nat, start.whole? = some (place : Int) ∧
      Surrounds entries.length place first last := by
  obtain ⟨place?, placed, rest⟩ := Attempt.answer_bind_eq_ok.mp found
  cases place? with
  | none => cases rest
  | some place =>
    obtain ⟨counts, inside⟩ := Value.whole?_of_place? placed
    obtain ⟨count, counted, run⟩ := Attempt.answer_bind_eq_ok.mp rest
    by_cases empty : count = 0
    · simp [empty] at run
    · simp only [empty, if_false, Attempt.pure_answer, Except.ok.injEq, Option.some.injEq] at run
      have surrounds := ends_surround counts inside (Nat.pos_of_ne_zero empty) (admitted_le counted)
      rw [run] at surrounds
      exact ⟨place, counts, surrounds⟩

/-- A run lies within the entries, and the place from which it has grown lies within the run. -/
theorem select_surrounds {host : Host} {view : View} {entries : List Entry}
    {start step criterion anchor first last : Value}
    (found : (select host view entries start step criterion anchor).answer =
      .ok (some (first, last))) :
    ∃ place : Nat, start.whole? = some (place : Int) ∧
      Surrounds entries.length place first last := by
  obtain ⟨criterion, -, rest⟩ := Attempt.answer_bind_eq_ok.mp found
  obtain ⟨stride, -, grown⟩ := Attempt.answer_bind_eq_ok.mp rest
  exact grow_surrounds grown

theorem select_ordered {host : Host} {view : View} {entries : List Entry}
    {start step criterion anchor first last : Value}
    (found : (select host view entries start step criterion anchor).answer =
      .ok (some (first, last))) :
    last.isBefore view first = .ok false := by
  obtain ⟨place, -, s, e, starts, stops, before, after, -⟩ := select_surrounds found
  rw [Value.isBefore_of_whole? view stops starts, Except.ok.injEq, decide_eq_false_iff_not]
  omega

section Asking

variable {allowed : Event → Prop}

theorem only_admitted {α : Type} {ask : α → Attempt Bool} (asks : ∀ a, (ask a).Only allowed)
    (met : List α) : (admitted ask met).Only allowed := by
  induction met with
  | nil => exact Attempt.only_pure 0
  | cons a rest ih =>
    refine (asks a).bind fun accepted => ?_
    split
    case isTrue => exact ih.bind fun count => Attempt.only_pure _
    case isFalse => exact Attempt.only_pure 0

variable (judged : ∀ entry index, allowed (.judged entry index))

include judged

theorem only_grow (host : Host) (view : View) (criterion : Criterion) (stride : Stride)
    (entries : List Entry) (start : Value) :
    (grow host view criterion stride entries start).Only allowed := by
  refine (Attempt.only_liftM _).bind fun place? => ?_
  cases place? with
  | none => exact Attempt.only_pure _
  | some place =>
    refine (only_admitted (fun met => ?_) _).bind fun count => Attempt.only_pure _
    split
    case isTrue => exact criterion.only_admits judged host view met.1 start
    case isFalse =>
      split
      case isTrue => exact criterion.only_admits judged host view met.1 _
      case isFalse => exact Attempt.only_fail _

theorem only_select (host : Host) (view : View) (entries : List Entry)
    (start step criterion anchor : Value) :
    (select host view entries start step criterion anchor).Only allowed :=
  (Attempt.only_liftM _).bind fun criterion => (Attempt.only_liftM _).bind fun stride =>
    only_grow judged host view criterion stride entries start

end Asking

theorem silent_select (host : Host) (view : View) (entries : List Entry)
    (start step criterion anchor : Value) :
    (select host view entries start step criterion anchor).Silent :=
  Attempt.Only.silent (only_select (fun _ _ => rfl) host view entries start step criterion anchor)

end Growth

end TokenEditor
