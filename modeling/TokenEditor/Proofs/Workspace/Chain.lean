import TokenEditor.Proofs.Workspace.Showing

/-!
# Chains of edits

An edit through a range is answered with a range over what has been written, and the next edit can
go through that one. In such a chain every range lies within the sequence, whatever the payloads
come to: each edit finds the tokens that the one before has written, and the entries around them
stay as they are. It only ends early with a payload that fails by itself.
-/

namespace TokenEditor

namespace Entries

variable (front run back : List Entry)

theorem window_between :
    window (front ++ run ++ back) front.length (front.length + run.length) = run := by
  rw [window, List.append_assoc, List.take_length_add_append, List.take_left, List.drop_left]

theorem splice_between (tokens : List String) :
    splice (front ++ run ++ back) front.length (front.length + run.length) tokens =
      front ++ tokens.map some ++ back := by
  rw [splice, List.append_assoc front run, List.take_left, List.drop_length_add_append,
    List.drop_left]

theorem take_append_window (entries : List Entry) {start stop : Nat} (ordered : start ≤ stop) :
    entries.take start ++ window entries start stop = entries.take stop := by
  have taken : entries.take start = (entries.take stop).take start := by
    rw [List.take_take, Nat.min_eq_left ordered]
  rw [window, taken, List.take_append_drop]

theorem take_window_drop (entries : List Entry) {start stop : Nat} (ordered : start ≤ stop) :
    entries.take start ++ window entries start stop ++ entries.drop stop = entries := by
  rw [take_append_window entries ordered, List.take_append_drop]

end Entries

namespace Workspace

/-- The range `id` lies over `run`, between `front` and `back`. -/
structure Spans (w : Workspace) (id : RangeId) (owner : SequenceId)
    (front run back : List Entry) : Prop where
  held : owner < w.sequences.length
  entries : w.entries owner = front ++ run ++ back
  range : ∃ start stop, w.ranges[id]? = some ⟨start, stop, owner⟩ ∧
    start.whole? = some (front.length : Int) ∧
    stop.whole? = some ((front.length + run.length : Nat) : Int)

/-- The course of a chain of edits: each payload in turn is called with just the run that stands
there, and is written through the range that the edit before has been answered with. -/
inductive Chain (host : Host) (owner : SequenceId) (front back : List Entry) :
    Workspace → RangeId → List Entry → List Value → Prop
  | done {w id run} : Spans w id owner front run back → Chain host owner front back w id run []
  | fails {w id run payload rest fault} :
      Spans w id owner front run back →
      Payload.Hands (w.lexer owner) (.ofEntries run) payload
        (w.overwrite host id payload).2.events →
      w.tokensFor host owner run payload = .error fault →
      (w.overwrite host id payload).2.answer = .error fault →
      SameContent w (w.overwrite host id payload).1 →
      Chain host owner front back w id run (payload :: rest)
  | writes {w id run payload rest tokens next} :
      Spans w id owner front run back →
      Payload.Hands (w.lexer owner) (.ofEntries run) payload
        (w.overwrite host id payload).2.events →
      w.tokensFor host owner run payload = .ok tokens →
      (w.overwrite host id payload).2.answer = .ok (.range next) →
      Chain host owner front back (w.overwrite host id payload).1 next (tokens.map some) rest →
      Chain host owner front back w id run (payload :: rest)

section Overwriting

variable {w : Workspace} {host : Host} {id : RangeId} {owner : SequenceId}
  {front run back : List Entry}

theorem Spans.within (spans : Spans w id owner front run back) :
    front.length + run.length ≤ (w.entries owner).length := by
  rw [spans.entries, List.length_append, List.length_append]
  exact Nat.le_add_right _ _

theorem Spans.shown (spans : Spans w id owner front run back) :
    Entries.shown (w.entries owner) front.length (front.length + run.length : Nat) = run := by
  rw [Entries.shown_of_le (Nat.le_add_right _ _) spans.within, spans.entries,
    Entries.window_between]

theorem Spans.hands (spans : Spans w id owner front run back) (payload : Value) :
    Payload.Hands (w.lexer owner) (.ofEntries run) payload
      (w.overwrite host id payload).2.events := by
  obtain ⟨start, stop, found, starts, stops⟩ := spans.range
  have hands := hands_overwrite found starts stops host payload
  rw [spans.shown] at hands
  exact hands

theorem Spans.overwrite_of_error (spans : Spans w id owner front run back) {payload : Value}
    {fault : Fault} (fails : w.tokensFor host owner run payload = .error fault) :
    (w.overwrite host id payload).2.answer = .error fault ∧
      SameContent w (w.overwrite host id payload).1 := by
  obtain ⟨start, stop, found, starts, stops⟩ := spans.range
  rw [← spans.shown] at fails
  exact overwrite_of_tokensFor_error found starts stops fails

theorem Spans.plan_replace (spans : Spans w id owner front run back) {payload : Value}
    {tokens : List String} (settles : w.tokensFor host owner run payload = .ok tokens) :
    ∃ start, start.whole? = some (front.length : Int) ∧
      (w.plan host (.ofRange id (.replace payload))).answer =
        .ok (.splice ⟨owner, start, front.length, front.length + run.length, tokens⟩) := by
  obtain ⟨start, stop, found, starts, stops⟩ := spans.range
  have bounds : (0 : Int) ≤ front.length ∧
      (front.length : Int) ≤ (front.length + run.length : Nat) ∧
      ((front.length + run.length : Nat) : Int) ≤ (w.entries owner).length :=
    ⟨Int.natCast_nonneg _, Int.ofNat_le.mpr (Nat.le_add_right _ _),
      Int.ofNat_le.mpr spans.within⟩
  rw [← spans.shown] at settles
  have plans := plan_replace_of_tokensFor found starts stops settles
  rw [if_pos bounds] at plans
  exact ⟨start, starts, plans⟩

theorem Spans.overwrite_of_ok (spans : Spans w id owner front run back) {payload : Value}
    {tokens : List String} (settles : w.tokensFor host owner run payload = .ok tokens) :
    (w.overwrite host id payload).2.answer = .ok (.range w.ranges.length) ∧
      Spans (w.overwrite host id payload).1 w.ranges.length owner front (tokens.map some)
        back := by
  obtain ⟨start, starts, plans⟩ := spans.plan_replace settles
  refine ⟨answer_perform_of_splice plans, ?_, ?_, ?_⟩
  · exact Nat.lt_of_lt_of_le spans.held (length_sequences_perform w host _)
  · rw [overwrite, entries_perform_of_splice plans spans.held, if_pos rfl, spans.entries]
    exact Entries.splice_between front run back tokens
  · refine ⟨start, .int (front.length + tokens.length : Nat), ?_, starts, ?_⟩
    · rw [overwrite, ranges_perform_of_splice plans, List.getElem?_concat_length]
      rfl
    · rw [List.length_map]
      rfl

/-- Wherever the first range lies within its sequence, the chain goes on until a payload fails by
itself. -/
theorem chain_of_spans (host : Host) (spans : Spans w id owner front run back)
    (payloads : List Value) : Chain host owner front back w id run payloads := by
  induction payloads generalizing w id run with
  | nil => exact .done spans
  | cons payload rest ih =>
    cases settles : w.tokensFor host owner run payload with
    | error fault =>
      obtain ⟨answer, same⟩ := spans.overwrite_of_error settles
      exact .fails spans (spans.hands payload) settles answer same
    | ok tokens =>
      obtain ⟨answer, later⟩ := spans.overwrite_of_ok settles
      exact .writes spans (spans.hands payload) settles answer (ih later)

theorem spans_of_bounds {cursor : RangeCursor} {s e : Int} (found : w.ranges[id]? = some cursor)
    (held : cursor.owner < w.sequences.length) (starts : cursor.start.whole? = some s)
    (stops : cursor.stop.whole? = some e)
    (bounds : 0 ≤ s ∧ s ≤ e ∧ e ≤ (w.entries cursor.owner).length) :
    Spans w id cursor.owner ((w.entries cursor.owner).take s.toNat)
      (Entries.window (w.entries cursor.owner) s.toNat e.toNat)
      ((w.entries cursor.owner).drop e.toNat) := by
  obtain ⟨first, rfl⟩ := Int.eq_ofNat_of_zero_le bounds.1
  obtain ⟨last, rfl⟩ := Int.eq_ofNat_of_zero_le (Int.le_trans bounds.1 bounds.2.1)
  have ordered : first ≤ last := Int.ofNat_le.mp bounds.2.1
  have within : last ≤ (w.entries cursor.owner).length := Int.ofNat_le.mp bounds.2.2
  have before : ((w.entries cursor.owner).take first).length = first :=
    List.length_take_of_le (Nat.le_trans ordered within)
  have between : (Entries.window (w.entries cursor.owner) first last).length = last - first := by
    rw [Entries.window, List.length_drop, List.length_take_of_le within]
  refine ⟨held, (Entries.take_window_drop _ ordered).symm, cursor.start, cursor.stop, found, ?_, ?_⟩
  · rw [Int.toNat_natCast, before]
    exact starts
  · rw [Int.toNat_natCast, Int.toNat_natCast, before, between, Nat.add_sub_cancel' ordered]
    exact stops

end Overwriting

/-- Edits that go on from the ranges that they are answered with are never turned away, and touch
nothing around the first range. -/
theorem chained_edits_stay_in_place {w : Workspace} {id : RangeId} {cursor : RangeCursor}
    {s e : Int} (found : w.ranges[id]? = some cursor) (held : cursor.owner < w.sequences.length)
    (starts : cursor.start.whole? = some s) (stops : cursor.stop.whole? = some e)
    (bounds : 0 ≤ s ∧ s ≤ e ∧ e ≤ (w.entries cursor.owner).length) (host : Host)
    (payloads : List Value) :
    let entries := w.entries cursor.owner
    Chain host cursor.owner (entries.take s.toNat) (entries.drop e.toNat) w id
      (Entries.window entries s.toNat e.toNat) payloads := by
  intro entries
  exact chain_of_spans host (spans_of_bounds found held starts stops bounds) payloads

/-- The function puts what it is given in brackets: first two places, one of them empty, and in the
end nothing. -/
theorem chained_edits_stay_in_place_past_empty_run :
    let host : Host :=
      ⟨fun _ current => match current with
        | .list items => .ok (.list (.text "(" :: items ++ [.text ")"]))
        | _ => .error .wrongKind,
      fun _ _ => .ok⟩
    let w : Workspace :=
      ⟨[⟨[some "a", some "b", none, some "c"], Lexer.standard⟩], [], [⟨.int 1, .int 3, 0⟩]⟩
    let first := w.overwrite host 0 (.function 0)
    let second := first.1.overwrite host 1 .null
    let third := second.1.overwrite host 2 (.function 0)
    Chain host 0 [some "a"] [some "c"] w 0 [some "b", none] [.function 0, .null, .function 0] ∧
      Event.calls first.2.events = [.list [.text "b", .null]] ∧
      first.1.entries 0 = [some "a", some "(", some "b", some ")", some "c"] ∧
      second.1.entries 0 = [some "a", some "c"] ∧
      third.1.entries 0 = [some "a", some "(", some ")", some "c"] := by
  intro host w first second third
  have chain := @chained_edits_stay_in_place w 0 ⟨.int 1, .int 3, 0⟩ 1 3 rfl (by decide) rfl rfl
    (by decide) host [.function 0, .null, .function 0]
  exact ⟨chain, rfl, by decide +kernel, by decide +kernel, by decide +kernel⟩

end Workspace

end TokenEditor
