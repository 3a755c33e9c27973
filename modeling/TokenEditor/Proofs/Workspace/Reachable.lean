import TokenEditor.Proofs.Workspace.Frame

/-!
# Ranges in reachable workspaces

An edit moves no range, so that a range made before may lie outside its sequence after, and one that
is extended from there may do so too. But however it has been made, no range ends before it starts.
-/

namespace TokenEditor

namespace Request

def selects : Request → Bool
  | .ofSequence _ (.select ..) | .ofItem _ (.select _) => true
  | .ofItem _ (.selectPrevious _) | .ofItem _ (.selectNext _) => true
  | _ => false

def extended? : Request → Option RangeId
  | .ofRange id (.extendLeft _) | .ofRange id (.extendRight _) => some id
  | _ => none

/-- What is asked of a workspace is about sequences that it holds, no range is made with ends that
are not whole, and nothing is assigned. -/
def Admissible (w : Workspace) : Request → Prop
  | newItem owner _ => owner < w.sequences.length
  | newRange owner start stop =>
      owner < w.sequences.length ∧ start.whole?.isSome ∧ stop.whole?.isSome
  | ofSequence owner _ => owner < w.sequences.length
  | request => request.assigns = false

theorem Admissible.unassigning {w : Workspace} {request : Request}
    (admissible : request.Admissible w) : request.assigns = false := by
  cases request with
  | ofItem id request => exact admissible
  | ofRange id request => exact admissible
  | _ => rfl

theorem makes_no_range_of_looks {request : Request} (looks : request.looks = true) :
    request.edits = false ∧ request.selects = false ∧ request.extended? = none := by
  unfold Request.looks at looks
  split at looks
  all_goals first
    | exact ⟨rfl, rfl, rfl⟩
    | cases looks

end Request

/-- A range of whole numbers that does not end before it starts, wherever it lies. -/
def RangeCursor.Ordered (cursor : RangeCursor) : Prop :=
  ∃ s e : Int, cursor.start.whole? = some s ∧ cursor.stop.whole? = some e ∧ s ≤ e

namespace Workspace

def Within (w : Workspace) (cursor : RangeCursor) : Prop :=
  ∃ s e : Nat, cursor.start.whole? = some (s : Int) ∧ cursor.stop.whole? = some (e : Int) ∧
    s ≤ e ∧ e ≤ (w.entries cursor.owner).length

/-- The workspaces that there can be after any number of requests, with any host for each. -/
inductive Reachable : Workspace → Prop
  | empty : Reachable Workspace.empty
  | step {w : Workspace} (host : Host) (request : Request) :
      Reachable w → request.Admissible w → Reachable (w.perform host request).1

/-- Cursors point into sequences that there are, and ranges are in order. -/
structure Sound (w : Workspace) : Prop where
  items : ∀ cursor ∈ w.items, cursor.owner < w.sequences.length
  ranges : ∀ cursor ∈ w.ranges, cursor.owner < w.sequences.length ∧ cursor.Ordered

variable {w : Workspace} {host : Host} {request : Request}

theorem Within.ordered {cursor : RangeCursor} (within : w.Within cursor) : cursor.Ordered := by
  obtain ⟨s, e, starts, stops, ordered, -⟩ := within
  exact ⟨s, e, starts, stops, Int.ofNat_le.mpr ordered⟩

namespace Sound

theorem of_sameContent {after : Workspace} (sound : Sound w) (same : SameContent w after) :
    Sound after where
  items cursor member := by
    rw [same.sequences]
    exact sound.items cursor (same.items ▸ member)
  ranges cursor member := by
    rw [same.sequences]
    exact sound.ranges cursor (same.ranges ▸ member)

theorem addSequence (sound : Sound w) (sequence : Sequence) : Sound (w.addSequence sequence) where
  items cursor member := by
    rw [Workspace.addSequence, List.length_append]
    exact Nat.lt_add_right _ (sound.items cursor member)
  ranges cursor member := by
    obtain ⟨held, ordered⟩ := sound.ranges cursor member
    rw [Workspace.addSequence, List.length_append]
    exact ⟨Nat.lt_add_right _ held, ordered⟩

theorem addItem (sound : Sound w) {cursor : ItemCursor}
    (held : cursor.owner < w.sequences.length) : Sound (w.addItem cursor) where
  items := List.forall_mem_append.mpr ⟨sound.items, List.forall_mem_singleton.mpr held⟩
  ranges := sound.ranges

theorem addRange (sound : Sound w) {cursor : RangeCursor}
    (made : cursor.owner < w.sequences.length ∧ cursor.Ordered) : Sound (w.addRange cursor) where
  items := sound.items
  ranges := List.forall_mem_append.mpr ⟨sound.ranges, List.forall_mem_singleton.mpr made⟩

theorem setEntries (sound : Sound w) (id : SequenceId) (entries : List Entry) :
    Sound (w.setEntries id entries) where
  items cursor member := (List.length_modify ..).symm ▸ sound.items cursor member
  ranges cursor member := (List.length_modify ..).symm ▸ sound.ranges cursor member

theorem setItem (sound : Sound w) (id : ItemId) {cursor : ItemCursor}
    (held : cursor.owner < w.sequences.length) :
    Sound { w with items := w.items.set id cursor } where
  items other member := by
    rcases List.mem_or_eq_of_mem_set member with old | rfl
    · exact sound.items other old
    · exact held
  ranges := sound.ranges

end Sound

theorem run_surrounds {owner : SequenceId} {start step criterion : Value} {run : RangeCursor}
    (found : (w.run host owner start step criterion).answer = .ok (some run)) :
    run.owner = owner ∧ ∃ place : Nat, start.whole? = some (place : Int) ∧
      Growth.Surrounds (w.entries owner).length place run.start run.stop := by
  obtain ⟨ends?, grown, done⟩ := Attempt.answer_bind_eq_ok.mp found
  obtain ⟨ends, rfl, rfl⟩ := Option.map_eq_some_iff.mp (Except.ok.inj done)
  exact ⟨rfl, Growth.select_surrounds grown⟩

theorem within_of_run {owner : SequenceId} {start step criterion : Value} {run : RangeCursor}
    (found : (w.run host owner start step criterion).answer = .ok (some run)) :
    w.Within run := by
  obtain ⟨rfl, place, -, s, e, starts, stops, before, after, inside⟩ := run_surrounds found
  exact ⟨s, e, starts, stops, by omega, inside⟩

section Sound

variable (sound : Sound w) (admissible : request.Admissible w)

include sound admissible

theorem Sound.subject_held {owner : SequenceId} (subject : w.subject? request = some owner) :
    owner < w.sequences.length := by
  cases request with
  | ofSequence id request =>
    obtain rfl := Option.some.inj subject
    exact admissible
  | ofItem id request =>
    obtain ⟨cursor, found, rfl⟩ := Option.map_eq_some_iff.mp subject
    exact sound.items cursor (List.mem_of_getElem? found)
  | ofRange id request =>
    obtain ⟨cursor, found, rfl⟩ := Option.map_eq_some_iff.mp subject
    exact (sound.ranges cursor (List.mem_of_getElem? found)).1
  | _ => cases subject

theorem Sound.item_held {cursor : ItemCursor}
    (planned : Planned w host request (.addItem cursor)) : cursor.owner < w.sequences.length := by
  cases planned with
  | item => exact admissible
  | place subject => exact sound.subject_held admissible subject

theorem Sound.moved_held {id : ItemId} {cursor : ItemCursor} {answer : Value}
    (planned : Planned w host request (.setItem id cursor answer)) :
    cursor.owner < w.sequences.length := by
  cases planned with
  | @advanced id cursor caseSensitive index found shifted =>
    exact sound.items cursor (List.mem_of_getElem? found)
  | itemAssigned assigns => simp [admissible.unassigning] at assigns

/-- An extension starts or stops where its range does, which is in order even if it is stale. -/
theorem Sound.range_ordered {cursor : RangeCursor}
    (planned : Planned w host request (.addRange cursor)) :
    cursor.owner < w.sequences.length ∧ cursor.Ordered := by
  cases planned with
  | @range owner start stop ordered =>
    obtain ⟨held, starts, stops⟩ := admissible
    obtain ⟨s, starts⟩ := Option.isSome_iff_exists.mp starts
    obtain ⟨e, stops⟩ := Option.isSome_iff_exists.mp stops
    rw [Value.isBefore_of_whole? w.view stops starts, Except.ok.injEq,
      decide_eq_false_iff_not] at ordered
    exact ⟨held, s, e, starts, stops, Int.not_lt.mp ordered⟩
  | selected subject found =>
    rw [← (run_surrounds found).1] at subject
    exact ⟨sound.subject_held admissible subject, (within_of_run found).ordered⟩
  | @extendedLeft id cursor criterion run held found =>
    obtain ⟨inside, s, e, starts, stops, ordered⟩ := sound.ranges cursor (List.mem_of_getElem? held)
    obtain ⟨same, place, counts, first, last, firsts, -, before, -⟩ := run_surrounds found
    have meets : (place : Int) = s := Option.some.inj (counts.symm.trans starts)
    exact ⟨same ▸ inside, first, e, firsts, stops, by omega⟩
  | @extendedRight id cursor criterion run held found =>
    obtain ⟨inside, s, e, starts, stops, ordered⟩ := sound.ranges cursor (List.mem_of_getElem? held)
    obtain ⟨same, place, counts, first, last, -, lasts, -, after, -⟩ := run_surrounds found
    have meets : (place : Int) = e := Option.some.inj (counts.symm.trans stops)
    exact ⟨same ▸ inside, s, last, starts, lasts, by omega⟩

theorem Sound.edit_held {edit : Edit} (plans : (w.plan host request).answer = .ok (.splice edit)) :
    edit.owner < w.sequences.length := by
  obtain ⟨offer, events, offers, accepts⟩ := exists_offer_of_splice plans
  rw [(fits_of_accept accepts).target]
  exact sound.subject_held admissible (subject?_of_offer? offers)

/-- What an edit is answered with lies over the tokens that are now in the sequence. -/
theorem Sound.within_of_splice {edit : Edit}
    (plans : (w.plan host request).answer = .ok (.splice edit)) :
    (w.perform host request).1.Within edit.cursor := by
  have held := sound.edit_held admissible plans
  obtain ⟨offer, events, offers, accepts⟩ := exists_offer_of_splice plans
  rcases accept_cases accepts with none | ⟨same, splices, fits, -, index⟩
  · cases none
  · cases splices
    refine ⟨edit.start, edit.start + edit.run.length, index, rfl, Nat.le_add_right _ _, ?_⟩
    have inside : edit.stop ≤ (w.entries edit.owner).length := fits.target ▸ fits.within
    have balance := Entries.length_splice edit.run fits.ordered inside
    rw [Edit.cursor, entries_perform_of_splice plans held, if_pos rfl, Edit.result]
    have ordered := fits.ordered
    omega

theorem sound_perform : Sound (w.perform host request).1 := by
  have ready : Sound (w.afterEvents (w.subject? request) (w.plan host request).events) :=
    sound.of_sameContent (sameContent_afterEvents w _ _)
  have same := (sameContent_afterEvents w (w.subject? request)
    (w.plan host request).events).sequences
  cases plans : (w.plan host request).answer with
  | error fault => exact sound.of_sameContent (perform_of_error plans).2
  | ok change =>
    rw [(perform_of_ok plans).1]
    have planned := planned_of_plan plans
    cases change with
    | nothing answer => exact ready
    | addSequence sequence => exact ready.addSequence sequence
    | addItem cursor =>
      apply ready.addItem
      rw [same]
      exact sound.item_held admissible planned
    | addRange cursor =>
      apply ready.addRange
      rw [same]
      exact sound.range_ordered admissible planned
    | splice edit =>
      apply (ready.setEntries edit.owner _).addRange
      refine ⟨?_, (sound.within_of_splice admissible plans).ordered⟩
      rw [setEntries, List.length_modify, same]
      exact sound.edit_held admissible plans
    | setItem id cursor answer =>
      apply ready.setItem
      rw [same]
      exact sound.moved_held admissible planned
    | setRange id cursor answer =>
      have assigns := planned.assigns_of_setRange
      simp [admissible.unassigning] at assigns

end Sound

theorem sound_of_reachable (reached : Reachable w) : Sound w := by
  induction reached with
  | empty => exact ⟨nofun, nofun⟩
  | step host request _ admissible sound => exact sound_perform sound admissible

/-- Edits and selections are bound to a sequence, and so are extensions of a range that lies within
it. -/
inductive Bound (w : Workspace) : Request → Prop
  | edit {request : Request} : request.edits = true → Bound w request
  | selection {request : Request} : request.selects = true → Bound w request
  | extension {request : Request} {id : RangeId} {cursor : RangeCursor} :
      request.extended? = some id → w.ranges[id]? = some cursor → w.Within cursor →
      Bound w request

theorem Bound.looks_not (bound : w.Bound request) : request.looks = false := by
  cases looks : request.looks with
  | false => rfl
  | true =>
    obtain ⟨edits, selects, extended⟩ := Request.makes_no_range_of_looks looks
    cases bound with
    | edit holds => simp [edits] at holds
    | selection holds => simp [selects] at holds
    | extension holds => simp [extended] at holds

theorem Bound.extended_within (bound : w.Bound request) {id : RangeId} {cursor : RangeCursor}
    (grows : request.extended? = some id) (found : w.ranges[id]? = some cursor) :
    w.Within cursor := by
  cases bound with
  | edit edits =>
    unfold Request.extended? at grows
    split at grows
    case h_3 => cases grows
    all_goals cases edits
  | selection selects =>
    unfold Request.extended? at grows
    split at grows
    case h_3 => cases grows
    all_goals cases selects
  | extension extended held within =>
    obtain rfl := Option.some.inj (grows.symm.trans extended)
    obtain rfl := Option.some.inj (found.symm.trans held)
    exact within

theorem Bound.within_of_planned (bound : w.Bound request) {cursor : RangeCursor}
    (planned : Planned w host request (.addRange cursor)) : w.Within cursor := by
  cases planned with
  | range =>
    cases bound with
    | edit edits => cases edits
    | selection selects => cases selects
    | extension extended => cases extended
  | selected subject found => exact within_of_run found
  | @extendedLeft id cursor criterion run held found =>
    obtain ⟨s, e, starts, stops, ordered, inside⟩ := bound.extended_within rfl held
    obtain ⟨same, place, counts, first, last, firsts, -, before, -⟩ := run_surrounds found
    have meets : (place : Int) = s := Option.some.inj (counts.symm.trans starts)
    exact ⟨first, e, firsts, stops, by omega, same ▸ inside⟩
  | @extendedRight id cursor criterion run held found =>
    obtain ⟨s, e, starts, stops, ordered, inside⟩ := bound.extended_within rfl held
    obtain ⟨same, place, counts, first, last, -, lasts, -, after, reach⟩ := run_surrounds found
    have meets : (place : Int) = e := Option.some.inj (counts.symm.trans stops)
    exact ⟨s, last, starts, lasts, by omega, same ▸ reach⟩

theorem range_answered (bound : w.Bound request) (admissible : request.Admissible w) {id : RangeId}
    (answered : (w.perform host request).2.answer = .ok (.range id)) :
    (∃ edit, (w.plan host request).answer = .ok (.splice edit)) ∨
      ∃ cursor, (w.plan host request).answer = .ok (.addRange cursor) := by
  cases plans : (w.plan host request).answer with
  | error fault => simp [(perform_of_error plans).1] at answered
  | ok change =>
    have planned := planned_of_plan plans
    rw [(perform_of_ok plans).2] at answered
    cases change with
    | splice edit => exact .inl ⟨edit, rfl⟩
    | addRange cursor => exact .inr ⟨cursor, rfl⟩
    | nothing answer =>
      cases planned with
      | nothing => cases answered
      | answered looks => simp [bound.looks_not] at looks
    | addSequence sequence => cases answered
    | addItem cursor => cases answered
    | setItem id cursor answer =>
      cases planned with
      | advanced => cases answered
      | itemAssigned assigns => simp [admissible.unassigning] at assigns
    | setRange id cursor answer =>
      have assigns := planned.assigns_of_setRange
      simp [admissible.unassigning] at assigns

theorem exists_within_of_splice (sound : Sound w) (admissible : request.Admissible w) {edit : Edit}
    {id : RangeId} (plans : (w.plan host request).answer = .ok (.splice edit))
    (answered : (w.perform host request).2.answer = .ok (.range id)) :
    ∃ cursor, (w.perform host request).1.ranges[id]? = some cursor ∧
      (w.perform host request).1.Within cursor := by
  rw [answer_perform_of_splice plans] at answered
  cases answered
  refine ⟨edit.cursor, ?_, sound.within_of_splice admissible plans⟩
  rw [ranges_perform_of_splice plans, List.getElem?_concat_length]

theorem exists_within_of_addRange (sound : Sound w) (admissible : request.Admissible w)
    (bound : w.Bound request) {cursor : RangeCursor} {id : RangeId}
    (plans : (w.plan host request).answer = .ok (.addRange cursor))
    (answered : (w.perform host request).2.answer = .ok (.range id)) :
    ∃ cursor, (w.perform host request).1.ranges[id]? = some cursor ∧
      (w.perform host request).1.Within cursor := by
  have planned := planned_of_plan plans
  have spares : Spares (w.plan host request) := by
    intro edit splices
    cases plans.symm.trans splices
  have kept := entries_perform_of_spares spares (sound.range_ordered admissible planned).1
  obtain ⟨after, answers⟩ := perform_of_ok plans
  rw [answers] at answered
  cases answered
  refine ⟨cursor, ?_, ?_⟩
  · rw [after]
    exact List.getElem?_concat_length
  · obtain ⟨s, e, starts, stops, ordered, inside⟩ := bound.within_of_planned planned
    exact ⟨s, e, starts, stops, ordered, kept.symm ▸ inside⟩

/-- However a workspace has been reached, its ranges are in order, stale or not; and what an edit, a
selection or the extension of a range within its sequence is answered with lies within its sequence
when it is answered. -/
theorem ranges_stay_ordered (reached : Reachable w) :
    (∀ cursor ∈ w.ranges, cursor.Ordered) ∧
      ∀ (host : Host) (request : Request), request.Admissible w → w.Bound request →
        ∀ id, (w.perform host request).2.answer = .ok (.range id) →
          ∃ cursor, (w.perform host request).1.ranges[id]? = some cursor ∧
            (w.perform host request).1.Within cursor := by
  have sound := sound_of_reachable reached
  refine ⟨fun cursor member => (sound.ranges cursor member).2, ?_⟩
  intro host request admissible bound id answered
  rcases range_answered bound admissible answered with ⟨edit, plans⟩ | ⟨cursor, plans⟩
  · exact exists_within_of_splice sound admissible plans answered
  · exact exists_within_of_addRange sound admissible bound plans answered

/-- An edit has left the first range stale, and extending it has given the third, which ends behind
the end as well; a selection made then lies within the sequence. -/
theorem ranges_stay_ordered_past_end :
    let host : Host := ⟨fun _ => .ok, fun _ _ _ => .ok (.bool true)⟩
    let w : Workspace :=
      ⟨[⟨[some "c"], Lexer.standard⟩], [],
        [⟨.int 0, .int 3, 0⟩, ⟨.int 0, .int 0, 0⟩, ⟨.int 0, .int 3, 0⟩]⟩
    let selection : Request := .ofSequence 0 (.select (.int 0) (.int (-1)) (.predicate 0))
    Reachable w ∧ (∀ cursor ∈ w.ranges, cursor.Ordered) ∧
      selection.Admissible w ∧ w.Bound selection ∧
      ∃ cursor, (w.perform host selection).1.ranges[3]? = some cursor ∧
        (w.perform host selection).1.Within cursor := by
  intro host w selection
  have made : Reachable ⟨[⟨[some "a", some "b", some "c"], Lexer.standard⟩], [], []⟩ :=
    .step host (.newSequence (.list [.text "a", .text "b", .text "c"]) Settings.standard) .empty rfl
  have ranged : Reachable
      ⟨[⟨[some "a", some "b", some "c"], Lexer.standard⟩], [], [⟨.int 0, .int 3, 0⟩]⟩ :=
    .step host (.newRange 0 (.int 0) (.int 3)) made ⟨Nat.zero_lt_one, rfl, rfl⟩
  have edited : Reachable
      ⟨[⟨[some "c"], Lexer.standard⟩], [], [⟨.int 0, .int 3, 0⟩, ⟨.int 0, .int 0, 0⟩]⟩ :=
    .step host (.ofSequence 0 (.replaceRange (.int 0) (.int 2) .null)) ranged Nat.zero_lt_one
  have extended : Reachable w := .step host (.ofRange 0 (.extendLeft .null)) edited rfl
  have admissible : selection.Admissible w := Nat.zero_lt_one
  obtain ⟨ordered, answered⟩ := ranges_stay_ordered extended
  have within := answered host selection admissible (.selection rfl) 3 rfl
  exact ⟨extended, ordered, admissible, .selection rfl, within⟩

end Workspace

end TokenEditor
