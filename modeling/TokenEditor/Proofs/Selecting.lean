import Mathlib.Order.Bounds.Basic
import TokenEditor.Proofs.MaximalRun

/-!
# Selecting by a text or a predicate

A text selects the entries that spell it, and a predicate of the host those that it accepts where
they stand. Either way the run that is selected goes as far as all places are accepted: forward to
the greatest such end, and backward to the least such start.
-/

namespace TokenEditor

/-- A value by which entries are selected, and what it accepts of them. A predicate has to answer
about each entry that is there, and does so by the truth of its answer. -/
inductive Host.Selects (host : Host) (view : View) (entries : List Entry) :
    Value → (Entry → Int → Bool) → Prop
  | text {token : String} :
      Selects host view entries (.text token) fun entry _ => entry == some token
  | predicate {id : CallableId} {p : Entry → Int → Bool} :
      host.Judges view entries id p → Selects host view entries (.predicate id) p

theorem Value.isTrue_congr {view other : View} (same : view.entries = other.entries)
    (value : Value) : value.isTrue view = value.isTrue other := by
  cases value with
  | sequence id => rw [isTrue, isTrue, same]
  | _ => rfl

section Selects

variable {host : Host} {view : View} {entries : List Entry} {selector : Value}
  {p : Entry → Int → Bool}

theorem Host.Selects.of_entries (selects : host.Selects view entries selector p) {other : View}
    (same : view.entries = other.entries) : host.Selects other entries selector p := by
  cases selects with
  | text => exact .text
  | predicate judges =>
    refine .predicate fun place inside => ?_
    obtain ⟨answer, answers, truth⟩ := judges place inside
    exact ⟨answer, answers, (answer.isTrue_congr same).symm.trans truth⟩

theorem Host.Selects.exists_decides (selects : host.Selects view entries selector p)
    (anchor : Value) : ∃ criterion events,
      Criterion.ofValue view anchor selector = .ok criterion ∧
        Growth.Decides criterion host view entries p events := by
  cases selects with
  | @text token => exact ⟨.spelled token, fun _ _ => [], rfl, fun _ _ => rfl⟩
  | @predicate id p judges =>
    exact ⟨.asking (.predicate id), _, rfl, Growth.decides_of_judges judges⟩

end Selects

namespace Growth

section Stretches

variable {p : Entry → Int → Bool} {entries : List Entry} {first last place : Int}

def AllAccepted (p : Entry → Int → Bool) (entries : List Entry) (first last : Int) : Prop :=
  ∀ place, first ≤ place → place < last → Accepts p entries place

theorem allAccepted_succ (accepts : Accepts p entries place) :
    AllAccepted p entries place (place + 1) := by
  intro other after before
  obtain rfl : place = other := by omega
  exact accepts

theorem lt_of_isGreatest (accepts : Accepts p entries place)
    (greatest : IsGreatest {last | AllAccepted p entries place last} last) : place < last :=
  Int.lt_of_add_one_le (greatest.2 (allAccepted_succ accepts))

theorem le_of_isLeast (accepts : Accepts p entries place)
    (least : IsLeast {first | AllAccepted p entries first (place + 1)} first) : first ≤ place :=
  least.2 (allAccepted_succ accepts)

/-- Within a list or at its end, no place is rejected but the end and those that are asked about. -/
theorem not_accepts_iff (starts : 0 ≤ place) (within : place ≤ entries.length) :
    ¬ Accepts p entries place ↔
      place = entries.length ∨ p (entryAt entries place) place = false := by
  have inside : Inside entries place ↔ place ≠ entries.length := by
    rw [Inside]
    omega
  rw [Accepts, inside, Classical.not_and_iff_not_or_not, not_not, Bool.not_eq_true]

theorem isGreatest_of_rejected (accepted : AllAccepted p entries first last)
    (ordered : first ≤ last) (rejected : ¬ Accepts p entries last) :
    IsGreatest {last | AllAccepted p entries first last} last := by
  refine ⟨accepted, fun further more => ?_⟩
  by_contra beyond
  exact rejected (more last ordered (by omega))

theorem isLeast_of_rejected (accepted : AllAccepted p entries first last) (ordered : first ≤ last)
    (rejected : ¬ Accepts p entries (first - 1)) :
    IsLeast {first | AllAccepted p entries first last} first := by
  refine ⟨accepted, fun earlier more => ?_⟩
  by_contra beyond
  exact rejected (more (first - 1) (by omega) (by omega))

end Stretches

section Selecting

variable {host : Host} {view : View} {entries : List Entry} {selector : Value}
  {p : Entry → Int → Bool} (selects : host.Selects view entries selector p) (anchor : Value)
  {start : Int}

include selects

theorem answer_select_of_rejected {step : Int} {stride : Stride}
    (strides : Stride.ofValue view (.int step) = .ok stride) (whole : stride.whole = true)
    (rejected : ¬ Accepts p entries start) :
    (select host view entries (.int start) (.int step) selector anchor).answer = .ok none := by
  obtain ⟨criterion, events, names, decides⟩ := selects.exists_decides anchor
  rw [select_eq_grow names strides, grow_of_rejected decides start whole rejected]

theorem answer_select_forward (accepts : Accepts p entries start) :
    ∃ last : Int, IsGreatest {last | AllAccepted p entries start last} last ∧
      (select host view entries (.int start) (.int 1) selector anchor).answer =
        .ok (some (.int start, .int last)) := by
  obtain ⟨criterion, events, names, decides⟩ := selects.exists_decides anchor
  obtain ⟨last, after, -, accepted, ends, grown⟩ := grow_forward decides start accepts
  refine ⟨last, isGreatest_of_rejected accepted (Int.le_of_lt after) ?_, ?_⟩
  · rintro ⟨inside, further⟩
    rcases ends with rfl | rejects
    · exact absurd inside.2 (Int.lt_irrefl _)
    · simp [rejects] at further
  · rw [select_eq_grow names (stride_forward view), grown]

theorem answer_select_backward (accepts : Accepts p entries start) :
    ∃ first : Int, IsLeast {first | AllAccepted p entries first (start + 1)} first ∧
      (select host view entries (.int start) (.int (-1)) selector anchor).answer =
        .ok (some (.int first, .int (start + 1))) := by
  obtain ⟨criterion, events, names, decides⟩ := selects.exists_decides anchor
  obtain ⟨first, -, before, accepted, ends, grown⟩ := grow_backward decides start accepts
  have all : AllAccepted p entries first (start + 1) :=
    fun place after within => accepted place after (Int.le_of_lt_add_one within)
  refine ⟨first, isLeast_of_rejected all (by omega) ?_, ?_⟩
  · rintro ⟨inside, further⟩
    rcases ends with rfl | rejects
    · exact absurd inside.1 (by decide)
    · simp [rejects] at further
  · rw [select_eq_grow names (stride_backward view), grown]

end Selecting

end Growth

end TokenEditor
