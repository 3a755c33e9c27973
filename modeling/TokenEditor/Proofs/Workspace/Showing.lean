import TokenEditor.Proofs.Workspace.Calls
import TokenEditor.Proofs.Workspace.Outside

/-!
# What a range shows

A range is read as a slice is: ends outside the sequence count from its end or are moved into it, so
that there is always something to show. Only where tokens are written are the ends checked, and by
then a function has been handed what the range shows. For ends that lie in order within the sequence
that is the entries between them.
-/

namespace TokenEditor

namespace Workspace

/-- What it comes to when a payload is written through a range. -/
def overwrite (w : Workspace) (host : Host) (id : RangeId) (payload : Value) :
    Workspace × Attempt Value :=
  w.perform host (.ofRange id (.replace payload))

/-- The tokens that a payload is written as where `run` stands, or the fault that it has by
itself. -/
def tokensFor (w : Workspace) (host : Host) (owner : SequenceId) (run : List Entry)
    (payload : Value) : Except Fault (List String) := do
  Payload.written w.view (← (w.resolve host owner (.ok (.ofEntries run)) payload).answer)

section Resolving

variable {w : Workspace} {host : Host} {owner : SequenceId} {run : List Entry} {payload : Value}

theorem exists_written_of_resolve {current : Except Fault Value} {items : Value}
    (resolves : (w.resolve host owner current payload).answer = .ok items) :
    ∃ tokens, Payload.written w.view items = .ok tokens := by
  obtain ⟨understood, -, rest⟩ := Attempt.answer_bind_eq_ok.mp resolves
  obtain ⟨members, -, listed⟩ := Attempt.answer_bind_eq_ok.mp rest
  cases listed
  exact ⟨members.filterMap (Payload.written? w.view), rfl⟩

theorem resolve_of_tokensFor_error {fault : Fault}
    (fails : w.tokensFor host owner run payload = .error fault) :
    (w.resolve host owner (.ok (.ofEntries run)) payload).answer = .error fault := by
  rw [tokensFor] at fails
  cases resolves : (w.resolve host owner (.ok (.ofEntries run)) payload).answer with
  | error own =>
    rw [resolves] at fails
    cases fails
    rfl
  | ok items =>
    obtain ⟨tokens, written⟩ := exists_written_of_resolve resolves
    rw [resolves] at fails
    cases written.symm.trans fails

end Resolving

section Performing

variable {w : Workspace} {host : Host} {cursor : RangeCursor} {s e : Int} {id : RangeId}
  (found : w.ranges[id]? = some cursor) (starts : cursor.start.whole? = some s)
  (stops : cursor.stop.whole? = some e)

include found starts stops

/-- The ends are checked when the payload has come to something. -/
theorem plan_replace_of_whole? (payload : Value) :
    w.plan host (.ofRange id (.replace payload)) = (do
      let current := Value.ofEntries (Entries.shown (w.entries cursor.owner) s e)
      let items ← w.resolve host cursor.owner (.ok current) payload
      w.replaceRange cursor.owner cursor.start cursor.stop items) := by
  have window := window_of_whole? (w := w) cursor.owner starts stops
  rw [plan, found]
  simp only [planRange, replaceRun, window]
  rfl

theorem hands_overwrite (host : Host) (payload : Value) :
    Payload.Hands (w.lexer cursor.owner)
      (.ofEntries (Entries.shown (w.entries cursor.owner) s e)) payload
      (w.overwrite host id payload).2.events := by
  rw [Payload.Hands, overwrite, calls_perform, plan_replace_of_whole? found starts stops,
    Attempt.calls_bind fun _ => rfl]
  exact hands_resolve w host cursor.owner _ payload

theorem overwrite_of_tokensFor_error {payload : Value} {fault : Fault}
    (fails : w.tokensFor host cursor.owner (Entries.shown (w.entries cursor.owner) s e) payload =
      .error fault) :
    (w.overwrite host id payload).2.answer = .error fault ∧
      SameContent w (w.overwrite host id payload).1 := by
  apply perform_of_error
  rw [plan_replace_of_whole? found starts stops]
  exact Attempt.answer_bind_of_error (resolve_of_tokensFor_error fails) _

theorem plan_replace_of_tokensFor {payload : Value} {tokens : List String}
    (settles : w.tokensFor host cursor.owner (Entries.shown (w.entries cursor.owner) s e) payload =
      .ok tokens) :
    (w.plan host (.ofRange id (.replace payload))).answer =
      if 0 ≤ s ∧ s ≤ e ∧ e ≤ (w.entries cursor.owner).length then
        .ok (.splice ⟨cursor.owner, cursor.start, s.toNat, e.toNat, tokens⟩)
      else .error (.spliceOutside (cursor.start.shown w.view) (cursor.stop.shown w.view)
        (w.entries cursor.owner).length) := by
  obtain ⟨items, resolves, written⟩ := bind_eq_ok.mp settles
  rw [plan_replace_of_whole? found starts stops, Attempt.answer_bind_of_ok resolves]
  exact replaceRange_of_whole? cursor.owner starts stops written

/-- Whatever ends a range has, it can be read, and a function is handed what the range shows. The
ends are checked after that. Outside the sequence nothing is written then; for ends in order within
it, what is shown and handed over is what stands between them. -/
theorem range_shown_before_checked (host : Host) :
    let entries := w.entries cursor.owner
    let shown := Entries.shown entries s e
    w.perform host (.ofRange id .entries) = (w, pure (.ofEntries shown)) ∧
    (∀ payload,
      let done := w.overwrite host id payload
      Payload.Hands (w.lexer cursor.owner) (.ofEntries shown) payload done.2.events ∧
      (¬ (0 ≤ s ∧ s ≤ e ∧ e ≤ entries.length) →
        match w.tokensFor host cursor.owner shown payload with
        | .ok _ => TurnedAway w done
        | .error fault => done.2.answer = .error fault ∧ SameContent w done.1)) ∧
    (0 ≤ s ∧ s ≤ e ∧ e ≤ entries.length → Entries.Stretch entries s e shown) := by
  intro entries shown
  refine ⟨perform_entries_of_whole? found starts stops, ?_, ?_⟩
  · intro payload done
    refine ⟨hands_overwrite found starts stops host payload, ?_⟩
    intro outside
    split
    case h_1 tokens settles =>
      have plans := plan_replace_of_tokensFor found starts stops settles
      rw [if_neg outside] at plans
      exact turnedAway_of_plan ⟨_, plans, rfl⟩
    case h_2 fault fails => exact overwrite_of_tokensFor_error found starts stops fails
  · intro bounds
    exact Entries.stretch_shown bounds.1 bounds.2.1 bounds.2.2

end Performing

theorem range_shown_before_checked_across_end :
    let host : Host := ⟨fun _ => .ok, fun _ _ => .ok⟩
    let w : Workspace := ⟨[⟨[some "a", none, some "b"], Lexer.standard⟩], [],
      [⟨.int (-2), .int 9, 0⟩, ⟨.int 1, .int 3, 0⟩]⟩
    w.perform host (.ofRange 0 .entries) = (w, pure (.list [.null, .text "b"])) ∧
      TurnedAway w (w.overwrite host 0 (.function 0)) ∧
      Entries.Stretch (w.entries 0) 1 3 [none, some "b"] := by
  intro host w
  obtain ⟨read, replaces, -⟩ :=
    @range_shown_before_checked w ⟨.int (-2), .int 9, 0⟩ (-2) 9 0 rfl rfl rfl host
  obtain ⟨-, -, stretch⟩ :=
    @range_shown_before_checked w ⟨.int 1, .int 3, 0⟩ 1 3 1 rfl rfl rfl host
  obtain ⟨-, away⟩ := replaces (.function 0)
  exact ⟨read, away (by decide), stretch ⟨by decide, by decide, by decide⟩⟩

/-- After an edit that shortens the sequence, a range reaches behind the end. It still shows what is
left of it, and that is what a function is called with. -/
theorem stale_range_read_and_handed_over :
    let host : Host := ⟨fun _ => .ok, fun _ _ => .ok⟩
    let before : Workspace := ⟨[⟨[some "a", some "b", some "c"], Lexer.standard⟩], [],
      [⟨.int 1, .int 3, 0⟩]⟩
    let w := (before.perform host (.ofSequence 0 (.replaceRange (.int 0) (.int 1) (.list [])))).1
    let done := w.overwrite host 0 (.function 0)
    w.entries 0 = [some "b", some "c"] ∧ w.ranges[0]? = some ⟨.int 1, .int 3, 0⟩ ∧
      (w.perform host (.ofRange 0 .entries)).2.answer = .ok (.list [.text "c"]) ∧
      Event.calls done.2.events = [.list [.text "c"]] ∧
      done.2.answer = .error (.spliceOutside "1" "3" 2) :=
  ⟨rfl, rfl, rfl, rfl, rfl⟩

end Workspace

end TokenEditor
