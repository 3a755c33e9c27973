import TokenEditor.Proofs.Selecting
import TokenEditor.Proofs.Workspace.Frame

/-!
# Ranges that are extended

A range is extended to the left from its own first place and to the right from the place behind it.
Either way one of its ends stays and the other goes as far as it can, so that a longer range comes
of it or none at all. As neither end has a part in how the other moves, the order of two extensions
does not matter.
-/

namespace TokenEditor

namespace Workspace

/-- What a request for a range comes to: a new cursor for the one that is found, or nothing, and in
either case no other change. -/
def Finds (w : Workspace) (done : Workspace × Attempt Value) : Option RangeCursor → Prop
  | some cursor => done.1 = w.addRange cursor ∧ done.2.answer = .ok (.range w.ranges.length)
  | none => done.1 = w ∧ done.2.answer = .ok .null

def rangeOf (done : Workspace × Attempt Value) : Except Fault (Option RangeCursor) := do
  match ← done.2.answer with
  | .range id => return done.1.ranges[id]?
  | _ => return none

/-- What a further request comes to, through the range that one was answered with; where there is no
range, nothing further is asked. -/
def through (done : Workspace × Attempt Value) (host : Host) (request : RangeRequest) :
    Workspace × Attempt Value :=
  match done.2.answer with
  | .ok (.range id) => done.1.perform host (.ofRange id request)
  | _ => done

section Finding

variable {w : Workspace} {host : Host} {done : Workspace × Attempt Value} {cursor : RangeCursor}

theorem getElem?_addRange (w : Workspace) (cursor : RangeCursor) :
    (w.addRange cursor).ranges[w.ranges.length]? = some cursor :=
  List.getElem?_concat_length

theorem Finds.rangeOf {found : Option RangeCursor} (finds : w.Finds done found) :
    rangeOf done = .ok found := by
  cases found with
  | none =>
    obtain ⟨-, answers⟩ := finds
    rw [Workspace.rangeOf, answers]
    rfl
  | some cursor =>
    obtain ⟨after, answers⟩ := finds
    rw [Workspace.rangeOf, answers, after]
    exact congrArg Except.ok (w.getElem?_addRange cursor)

theorem rangeOf_perform_of_splice {request : Request} {edit : Edit}
    (plans : (w.plan host request).answer = .ok (.splice edit)) :
    rangeOf (w.perform host request) = .ok (some edit.cursor) := by
  rw [rangeOf, answer_perform_of_splice plans, ranges_perform_of_splice plans]
  exact congrArg Except.ok List.getElem?_concat_length

theorem Finds.through_some (finds : w.Finds done (some cursor)) (request : RangeRequest) :
    through done host request =
      (w.addRange cursor).perform host (.ofRange w.ranges.length request) := by
  obtain ⟨after, answers⟩ := finds
  rw [through, answers, after]

theorem Finds.through_none (finds : w.Finds done none) (request : RangeRequest) :
    through done host request = done := by
  obtain ⟨-, answers⟩ := finds
  rw [through, answers]

theorem finds_of_run {request : Request} {owner : SequenceId}
    (subject : w.subject? request = some owner) (unlexed : request.lexes = false)
    {running : Attempt (Option RangeCursor)}
    {reshape : Option RangeCursor → Option RangeCursor}
    (plans : w.plan host request = running >>= fun found => pure (cursorOrNull (reshape found)))
    {found : Option RangeCursor} (runs : running.answer = .ok found) :
    w.Finds (w.perform host request) (reshape found) := by
  have silent : (w.plan host request).Silent := silent_plan subject unlexed
  have answer := (congrArg Attempt.answer plans).trans (Attempt.answer_bind_of_ok runs _)
  obtain ⟨after, answers⟩ := perform_of_ok answer
  rw [afterEvents_of_unlexed w _ silent] at after answers
  cases reshaped : reshape found <;> (rw [reshaped] at after answers; exact ⟨after, answers⟩)

end Finding

section Running

variable {w : Workspace} {host : Host} {owner : SequenceId} {selector : Value}
  {p : Entry → Int → Bool} (selects : host.Selects w.view (w.entries owner) selector p)
  {start : Int}

open Growth

include selects

theorem answer_run_of_rejected {step : Int} {stride : Stride}
    (strides : Stride.ofValue w.view (.int step) = .ok stride) (whole : stride.whole = true)
    (rejected : ¬ Accepts p (w.entries owner) start) :
    (w.run host owner (.int start) (.int step) selector).answer = .ok none := by
  rw [run, Attempt.answer_bind_of_ok
    (answer_select_of_rejected selects _ strides whole rejected)]
  rfl

theorem answer_run_forward (accepts : Accepts p (w.entries owner) start) :
    ∃ last : Int, IsGreatest {last | AllAccepted p (w.entries owner) start last} last ∧
      (w.run host owner (.int start) (.int 1) selector).answer =
        .ok (some ⟨.int start, .int last, owner⟩) := by
  obtain ⟨last, greatest, found⟩ := answer_select_forward selects (.int start) accepts
  refine ⟨last, greatest, ?_⟩
  rw [run, Attempt.answer_bind_of_ok found]
  rfl

theorem answer_run_backward (accepts : Accepts p (w.entries owner) start) :
    ∃ first : Int, IsLeast {first | AllAccepted p (w.entries owner) first (start + 1)} first ∧
      (w.run host owner (.int start) (.int (-1)) selector).answer =
        .ok (some ⟨.int first, .int (start + 1), owner⟩) := by
  obtain ⟨first, least, found⟩ := answer_select_backward selects (.int start) accepts
  refine ⟨first, least, ?_⟩
  rw [run, Attempt.answer_bind_of_ok found]
  rfl

end Running

section Extending

variable {w : Workspace} {host : Host} {owner : SequenceId} {selector : Value}
  {p : Entry → Int → Bool} (selects : host.Selects w.view (w.entries owner) selector p)
  {id : RangeId} {s e : Int} (held : w.ranges[id]? = some ⟨.int s, .int e, owner⟩)

open Growth

theorem finds_extendLeft_of_run {cursor : RangeCursor} {found : Option RangeCursor}
    (held : w.ranges[id]? = some cursor)
    (runs : (w.run host cursor.owner cursor.start (.int (-1)) selector).answer = .ok found) :
    w.Finds (w.perform host (.ofRange id (.extendLeft selector)))
      (found.map fun run => { run with stop := cursor.stop }) := by
  have plans : w.plan host (.ofRange id (.extendLeft selector)) =
      w.extendLeft host cursor selector := by
    rw [plan, held]
    rfl
  exact finds_of_run (subject_ofRange held _) rfl plans runs

theorem finds_extendRight_of_run {cursor : RangeCursor} {found : Option RangeCursor}
    (held : w.ranges[id]? = some cursor)
    (runs : (w.run host cursor.owner cursor.stop (.int 1) selector).answer = .ok found) :
    w.Finds (w.perform host (.ofRange id (.extendRight selector)))
      (found.map fun run => { run with start := cursor.start }) := by
  have plans : w.plan host (.ofRange id (.extendRight selector)) =
      w.extendRight host cursor selector := by
    rw [plan, held]
    rfl
  exact finds_of_run (subject_ofRange held _) rfl plans runs

include selects held

theorem extendLeft_finds_none (rejected : ¬ Accepts p (w.entries owner) s) :
    w.Finds (w.perform host (.ofRange id (.extendLeft selector))) none :=
  finds_extendLeft_of_run held
    (answer_run_of_rejected selects (stride_backward w.view) rfl rejected)

theorem extendLeft_finds_some (accepts : Accepts p (w.entries owner) s) :
    ∃ first : Int, IsLeast {first | AllAccepted p (w.entries owner) first (s + 1)} first ∧
      w.Finds (w.perform host (.ofRange id (.extendLeft selector)))
        (some ⟨.int first, .int e, owner⟩) := by
  obtain ⟨first, least, runs⟩ := answer_run_backward selects accepts
  exact ⟨first, least, finds_extendLeft_of_run held runs⟩

theorem extendRight_finds_none (rejected : ¬ Accepts p (w.entries owner) e) :
    w.Finds (w.perform host (.ofRange id (.extendRight selector))) none :=
  finds_extendRight_of_run held
    (answer_run_of_rejected selects (stride_forward w.view) rfl rejected)

theorem extendRight_finds_some (accepts : Accepts p (w.entries owner) e) :
    ∃ last : Int, IsGreatest {last | AllAccepted p (w.entries owner) e last} last ∧
      w.Finds (w.perform host (.ofRange id (.extendRight selector)))
        (some ⟨.int s, .int last, owner⟩) := by
  obtain ⟨last, greatest, runs⟩ := answer_run_forward selects accepts
  exact ⟨last, greatest, finds_extendRight_of_run held runs⟩

end Extending

section Following

variable {w : Workspace} {host : Host} {owner : SequenceId} {selector : Value}
  {p : Entry → Int → Bool} {done : Workspace × Attempt Value} {s e : Int}
  (finds : w.Finds done (some ⟨.int s, .int e, owner⟩))
  (selects : host.Selects w.view (w.entries owner) selector p)

open Growth

theorem selects_addRange (selects : host.Selects w.view (w.entries owner) selector p)
    (cursor : RangeCursor) :
    host.Selects (w.addRange cursor).view ((w.addRange cursor).entries owner) selector p :=
  selects.of_entries (by rw [entries_view, entries_view]; rfl)

include finds selects

theorem Finds.extendLeft_none (rejected : ¬ Accepts p (w.entries owner) s) :
    (w.addRange ⟨.int s, .int e, owner⟩).Finds (through done host (.extendLeft selector)) none := by
  rw [finds.through_some]
  exact extendLeft_finds_none (selects_addRange selects _) (w.getElem?_addRange _) rejected

theorem Finds.extendLeft_some (accepts : Accepts p (w.entries owner) s) :
    ∃ first : Int, IsLeast {first | AllAccepted p (w.entries owner) first (s + 1)} first ∧
      (w.addRange ⟨.int s, .int e, owner⟩).Finds (through done host (.extendLeft selector))
        (some ⟨.int first, .int e, owner⟩) := by
  rw [finds.through_some]
  exact extendLeft_finds_some (selects_addRange selects _) (w.getElem?_addRange _) accepts

theorem Finds.extendRight_none (rejected : ¬ Accepts p (w.entries owner) e) :
    (w.addRange ⟨.int s, .int e, owner⟩).Finds (through done host (.extendRight selector))
      none := by
  rw [finds.through_some]
  exact extendRight_finds_none (selects_addRange selects _) (w.getElem?_addRange _) rejected

theorem Finds.extendRight_some (accepts : Accepts p (w.entries owner) e) :
    ∃ last : Int, IsGreatest {last | AllAccepted p (w.entries owner) e last} last ∧
      (w.addRange ⟨.int s, .int e, owner⟩).Finds (through done host (.extendRight selector))
        (some ⟨.int s, .int last, owner⟩) := by
  rw [finds.through_some]
  exact extendRight_finds_some (selects_addRange selects _) (w.getElem?_addRange _) accepts

end Following

section Commuting

variable {w : Workspace} {host : Host} {id : RangeId} {owner : SequenceId} {s e : Int}
  (held : w.ranges[id]? = some ⟨.int s, .int e, owner⟩)

open Growth

include held

/-- An extension to one side leaves the other side to be extended as before. -/
theorem extensions_agree {left right : Value} {p q : Entry → Int → Bool}
    (selectsLeft : host.Selects w.view (w.entries owner) left p)
    (selectsRight : host.Selects w.view (w.entries owner) right q) :
    ∃ found : Option RangeCursor,
      rangeOf (through (w.perform host (.ofRange id (.extendLeft left))) host
        (.extendRight right)) = .ok found ∧
      rangeOf (through (w.perform host (.ofRange id (.extendRight right))) host
        (.extendLeft left)) = .ok found ∧
      (found = none ↔
        ¬ Accepts p (w.entries owner) s ∨ ¬ Accepts q (w.entries owner) e) := by
  by_cases acceptsLeft : Accepts p (w.entries owner) s
  · obtain ⟨first, least, leftFinds⟩ := extendLeft_finds_some selectsLeft held acceptsLeft
    by_cases acceptsRight : Accepts q (w.entries owner) e
    · obtain ⟨last, greatest, rightFinds⟩ := extendRight_finds_some selectsRight held acceptsRight
      obtain ⟨_, greatest', leftRight⟩ := leftFinds.extendRight_some selectsRight acceptsRight
      obtain ⟨_, least', rightLeft⟩ := rightFinds.extendLeft_some selectsLeft acceptsLeft
      refine ⟨some ⟨.int first, .int last, owner⟩, ?_, ?_, by simp [acceptsLeft, acceptsRight]⟩
      · rw [leftRight.rangeOf, greatest'.unique greatest]
      · rw [rightLeft.rangeOf, least'.unique least]
    · have rightFinds := extendRight_finds_none selectsRight held acceptsRight
      have leftRight := leftFinds.extendRight_none selectsRight acceptsRight
      refine ⟨none, leftRight.rangeOf, ?_, by simp [acceptsRight]⟩
      rw [rightFinds.through_none, rightFinds.rangeOf]
  · have leftFinds := extendLeft_finds_none selectsLeft held acceptsLeft
    refine ⟨none, ?_, ?_, by simp [acceptsLeft]⟩
    · rw [leftFinds.through_none, leftFinds.rangeOf]
    · by_cases acceptsRight : Accepts q (w.entries owner) e
      · obtain ⟨last, -, rightFinds⟩ := extendRight_finds_some selectsRight held acceptsRight
        exact (rightFinds.extendLeft_none selectsLeft acceptsLeft).rangeOf
      · have rightFinds := extendRight_finds_none selectsRight held acceptsRight
        rw [rightFinds.through_none, rightFinds.rangeOf]

/-- A range within its sequence is extended to the left if its first place is accepted, and to the
right if the place behind it is, each time as far as all places are. So what is found has the range
in it; and extended to both sides, it comes to the same in either order. -/
theorem extension_grows_one_end (bounds : 0 ≤ s ∧ s ≤ e ∧ e ≤ (w.entries owner).length) :
    let entries := w.entries owner
    let extended := fun request => w.perform host (.ofRange id request)
    (∀ selector p, host.Selects w.view entries selector p →
      (if s = entries.length ∨ p (Growth.entryAt entries s) s = false then
          w.Finds (extended (.extendLeft selector)) none
        else ∃ first : Int, IsLeast {first | AllAccepted p entries first (s + 1)} first ∧
          first ≤ s ∧
          w.Finds (extended (.extendLeft selector)) (some ⟨.int first, .int e, owner⟩)) ∧
      (if e = entries.length ∨ p (Growth.entryAt entries e) e = false then
          w.Finds (extended (.extendRight selector)) none
        else ∃ last : Int, IsGreatest {last | AllAccepted p entries e last} last ∧ e < last ∧
          w.Finds (extended (.extendRight selector)) (some ⟨.int s, .int last, owner⟩))) ∧
    ∀ left right p q, host.Selects w.view entries left p → host.Selects w.view entries right q →
      ∃ found : Option RangeCursor,
        rangeOf (through (extended (.extendLeft left)) host (.extendRight right)) = .ok found ∧
        rangeOf (through (extended (.extendRight right)) host (.extendLeft left)) = .ok found ∧
        (found = none ↔ ¬ Accepts p entries s ∨ ¬ Accepts q entries e) := by
  intro entries extended
  refine ⟨fun selector p selects => ⟨?_, ?_⟩, fun _ _ _ _ => extensions_agree held⟩
  · have decided : ¬ Accepts p entries s ↔ _ :=
      not_accepts_iff bounds.1 (Int.le_trans bounds.2.1 bounds.2.2)
    split
    case isTrue rejected => exact extendLeft_finds_none selects held (decided.mpr rejected)
    case isFalse rejected =>
      have accepts := not_not.mp (mt decided.mp rejected)
      obtain ⟨first, least, finds⟩ := extendLeft_finds_some selects held accepts
      exact ⟨first, least, le_of_isLeast accepts least, finds⟩
  · have decided : ¬ Accepts p entries e ↔ _ :=
      not_accepts_iff (Int.le_trans bounds.1 bounds.2.1) bounds.2.2
    split
    case isTrue rejected => exact extendRight_finds_none selects held (decided.mpr rejected)
    case isFalse rejected =>
      have accepts := not_not.mp (mt decided.mp rejected)
      obtain ⟨last, greatest, finds⟩ := extendRight_finds_some selects held accepts
      exact ⟨last, greatest, lt_of_isGreatest accepts greatest, finds⟩

end Commuting

/-- To the left a text selects, and to the right a predicate, whose answers are no truth values and
which does not answer about every entry. -/
theorem extension_grows_one_end_up_to_gap :
    let host : Host := ⟨fun _ => .ok, fun _ entry _ =>
      match entry with
      | .null => .ok (.list [.text "gap"])
      | .text "c" => .ok (.text "")
      | _ => .error (.callback "boom")⟩
    let entries : List Entry := [none, some "c", some "c", none, none]
    let w : Workspace := ⟨[⟨entries, Lexer.standard⟩], [], [⟨.int 2, .int 3, 0⟩]⟩
    let extended := fun request => w.perform host (.ofRange 0 request)
    host.Selects w.view entries (.text "c") (fun entry _ => entry == some "c") ∧
      host.Selects w.view entries (.predicate 0) (fun entry _ => entry == none) ∧
      w.Finds (extended (.extendLeft (.text "c"))) (some ⟨.int 1, .int 3, 0⟩) ∧
      w.Finds (extended (.extendRight (.predicate 0))) (some ⟨.int 2, .int 5, 0⟩) ∧
      w.Finds (extended (.extendRight (.text "c"))) none ∧
      rangeOf (through (extended (.extendLeft (.text "c"))) host (.extendRight (.predicate 0))) =
        rangeOf (through (extended (.extendRight (.predicate 0))) host
          (.extendLeft (.text "c"))) := by
  intro host entries w extended
  have spelled : host.Selects w.view entries (.text "c") fun entry _ => entry == some "c" := .text
  have judged : host.Selects w.view entries (.predicate 0) fun entry _ => entry == none := by
    refine .predicate fun place inside => ?_
    obtain ⟨first, last⟩ := inside
    have among : place = 0 ∨ place = 1 ∨ place = 2 ∨ place = 3 ∨ place = 4 := by
      have length : entries.length = 5 := rfl
      omega
    rcases among with rfl | rfl | rfl | rfl | rfl <;> exact ⟨_, rfl, rfl⟩
  obtain ⟨sides, both⟩ := @extension_grows_one_end w host 0 0 2 3 rfl (by decide)
  obtain ⟨left, none⟩ := sides _ _ spelled
  obtain ⟨-, right⟩ := sides _ _ judged
  obtain ⟨first, -, -, leftFinds⟩ := left
  obtain ⟨last, -, -, rightFinds⟩ := right
  obtain ⟨found, one, other, -⟩ := both _ _ _ _ spelled judged
  have starts : rangeOf (extended (.extendLeft (.text "c"))) = .ok (some ⟨.int 1, .int 3, 0⟩) := rfl
  have stops : rangeOf (extended (.extendRight (.predicate 0))) =
      .ok (some ⟨.int 2, .int 5, 0⟩) := rfl
  cases leftFinds.rangeOf.symm.trans starts
  cases rightFinds.rangeOf.symm.trans stops
  exact ⟨spelled, judged, leftFinds, rightFinds, none, one.trans other.symm⟩

end Workspace

end TokenEditor
