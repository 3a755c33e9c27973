import TokenEditor.Proofs.Value.Shown
import TokenEditor.Proofs.Workspace.Chain
import TokenEditor.Proofs.Workspace.Extending

/-!
# Edits that are undone

The range that an edit is answered with lies over just what has been written. So the edit can be
undone through it: by the tokens that stood there before, if there were no gaps among them, and
after an insertion by nothing at all.
-/

namespace TokenEditor

namespace Entries

theorem splice_splice {entries : List Entry} {start stop : Nat} (ordered : start ≤ stop)
    (within : stop ≤ entries.length) (run more : List String) :
    splice (splice entries start stop run) start (start + run.length) more =
      splice entries start stop more := by
  have front : (entries.take start).length = start :=
    List.length_take_of_le (Nat.le_trans ordered within)
  have between := splice_between (entries.take start) (run.map some) (entries.drop stop) more
  rw [front, List.length_map] at between
  exact between

theorem splice_window {entries : List Entry} {start stop : Nat} (ordered : start ≤ stop)
    {run : List String} (stood : window entries start stop = run.map some) :
    splice entries start stop run = entries := by
  rw [splice, ← stood, take_window_drop entries ordered]

theorem exists_tokens_of_solid {entries : List Entry}
    (solid : ∀ entry ∈ entries, isGap entry = false) :
    ∃ tokens : List String, entries = tokens.map some ∧ ∀ token ∈ tokens, token ≠ "" := by
  induction entries with
  | nil => exact ⟨[], rfl, nofun⟩
  | cons entry entries ih =>
    obtain ⟨first, others⟩ := List.forall_mem_cons.mp solid
    obtain ⟨tokens, rfl, written⟩ := ih others
    cases entry with
    | none => cases first
    | some token =>
      refine ⟨token :: tokens, rfl, List.forall_mem_cons.mpr ⟨?_, written⟩⟩
      rintro rfl
      cases first

end Entries

namespace Workspace

/-- What a request comes to that brings back all entries of `w`, and is answered with `cursor`. -/
structure Undone (w : Workspace) (cursor : RangeCursor) (done : Workspace × Attempt Value) :
    Prop where
  range : rangeOf done = .ok (some cursor)
  entries : ∀ id < w.sequences.length, done.1.entries id = w.entries id

section Settling

variable (w : Workspace) (host : Host) (owner : SequenceId) (run : List Entry)

theorem tokensFor_null : w.tokensFor host owner run .null = .ok [] := rfl

theorem tokensFor_nil : w.tokensFor host owner run (.list []) = .ok [] := rfl

theorem tokensFor_ofEntries {tokens : List String} (written : ∀ token ∈ tokens, token ≠ "") :
    w.tokensFor host owner run (.ofEntries (tokens.map some)) = .ok tokens := by
  have kept : ((tokens.map some).map Value.ofEntry).filterMap (Payload.written? w.view) =
      tokens := by
    rw [List.filterMap_map, List.filterMap_map]
    calc tokens.filterMap ((Payload.written? w.view ∘ Value.ofEntry) ∘ some)
        = tokens.filterMap some := by
          apply List.filterMap_congr
          intro token member
          exact if_neg (written token member)
      _ = tokens := List.filterMap_some
  exact congrArg Except.ok kept

end Settling

section Performing

variable {w : Workspace} {host : Host} {request : Request} {owner : SequenceId} {index : Value}
  {start stop : Nat} {run tokens : List String} {payload : Value}

/-- A payload that is written through the range of an edit takes the place of what had stood there
before that edit. -/
theorem overwrite_after_splice (held : owner < w.sequences.length)
    (counts : index.whole? = some (start : Int)) (ordered : start ≤ stop)
    (within : stop ≤ (w.entries owner).length)
    (plans : (w.plan host request).answer = .ok (.splice ⟨owner, index, start, stop, run⟩))
    (settles : ∀ (after : Workspace) (stands : List Entry),
      after.tokensFor host owner stands payload = .ok tokens) :
    let done := w.perform host request
    let again := done.1.overwrite host w.ranges.length payload
    rangeOf again = .ok (some ⟨index, .int (start + tokens.length), owner⟩) ∧
      ∀ id < w.sequences.length, again.1.entries id =
        if owner = id then Entries.splice (w.entries owner) start stop tokens
        else w.entries id := by
  intro done again
  have found : done.1.ranges[w.ranges.length]? =
      some ⟨index, .int (start + run.length : Nat), owner⟩ := by
    rw [ranges_perform_of_splice plans, List.getElem?_concat_length]
    rfl
  have written : ∀ id < w.sequences.length, done.1.entries id =
      if owner = id then Entries.splice (w.entries owner) start stop run else w.entries id :=
    fun id inside => entries_perform_of_splice plans inside
  have length := Entries.length_splice run ordered within
  rw [← (written owner held).trans (if_pos rfl)] at length
  have bounds : (0 : Int) ≤ start ∧ (start : Int) ≤ (start + run.length : Nat) ∧
      ((start + run.length : Nat) : Int) ≤ (done.1.entries owner).length := by
    omega
  have planned := plan_replace_of_tokensFor found counts rfl (settles done.1 _)
  rw [if_pos bounds] at planned
  refine ⟨rangeOf_perform_of_splice planned, fun id inside => ?_⟩
  have kept : id < done.1.sequences.length :=
    Nat.lt_of_lt_of_le inside (length_sequences_perform w host request)
  refine (entries_perform_of_splice planned kept).trans ?_
  by_cases same : owner = id
  · subst same
    rw [if_pos rfl, if_pos rfl, Edit.result, written owner held, if_pos rfl]
    exact Entries.splice_splice ordered within run tokens
  · rw [if_neg same, if_neg same, written id inside, if_neg same]

theorem undone_of_splice (held : owner < w.sequences.length)
    (counts : index.whole? = some (start : Int)) (ordered : start ≤ stop)
    (within : stop ≤ (w.entries owner).length)
    (plans : (w.plan host request).answer = .ok (.splice ⟨owner, index, start, stop, run⟩))
    (settles : ∀ (after : Workspace) (stands : List Entry),
      after.tokensFor host owner stands payload = .ok tokens)
    (stood : Entries.window (w.entries owner) start stop = tokens.map some) :
    Undone w ⟨index, .int stop, owner⟩
      ((w.perform host request).1.overwrite host w.ranges.length payload) := by
  obtain ⟨range, entries⟩ := overwrite_after_splice held counts ordered within plans settles
  have length := congrArg List.length stood
  rw [Entries.window, List.length_drop, List.length_take_of_le within, List.length_map] at length
  have reach : (start + tokens.length : Int) = stop := by omega
  rw [reach] at range
  refine ⟨range, fun id inside => (entries id inside).trans ?_⟩
  split
  case isTrue same =>
    rw [← same]
    exact Entries.splice_window ordered stood
  case isFalse => rfl

end Performing

section Editing

variable {w : Workspace} {owner : SequenceId} {start stop index payload : Value} {s e : Nat}

theorem replaceRange_of_error {fault : Fault} (starts : start.whole? = some (s : Int))
    (stops : stop.whole? = some (e : Int)) (ordered : s ≤ e)
    (within : e ≤ (w.entries owner).length)
    (unwritten : Payload.written w.view payload = .error fault) :
    w.replaceRange owner start stop payload = .error fault := by
  have bounds : (0 : Int) ≤ s ∧ (s : Int) ≤ e ∧ (e : Int) ≤ (w.entries owner).length := by omega
  rw [replaceRange, checkBounds_of_whole? owner starts stops, if_pos bounds, unwritten]
  rfl

/-- An insertion that comes to anything is made at one place of the sequence. -/
theorem insertAt_cases {change : Change} (inserts : w.insertAt owner index payload = .ok change) :
    change = .nothing .null ∨ ∃ (i : Nat) (tokens : List String),
      index.whole? = some (i : Int) ∧ i ≤ (w.entries owner).length ∧
        change = .splice ⟨owner, index, i, i, tokens⟩ := by
  obtain ⟨_, checked, rest⟩ := bind_eq_ok.mp inserts
  obtain ⟨tokens, -, placed⟩ := bind_eq_ok.mp rest
  cases tokens with
  | nil => exact .inl (Except.ok.inj placed).symm
  | cons token more =>
    obtain ⟨s, e, starts, stops, -, within, same⟩ := exists_places_of_spliceAt checked placed
    obtain rfl : s = e := Int.ofNat_inj.mp (Option.some.inj (starts.symm.trans stops))
    exact .inr ⟨s, token :: more, starts, within, same⟩

end Editing

/-- Between two places of a sequence, whatever can be written there is undone by a list of the
tokens that stood there, if there were no gaps among them. An insertion that is answered with a
range is undone by nothing, whatever entries there are around it. -/
theorem edits_undone {w : Workspace} {owner : SequenceId} (held : owner < w.sequences.length)
    (host : Host) :
    (∀ (start stop : Value) (s e : Nat), start.whole? = some (s : Int) →
      stop.whole? = some (e : Int) → s ≤ e → e ≤ (w.entries owner).length →
      (∀ entry ∈ Entries.window (w.entries owner) s e, Entries.isGap entry = false) →
      ∀ payload : Value,
        let done := w.perform host (.ofSequence owner (.replaceRange start stop payload))
        let before := Value.ofEntries (Entries.window (w.entries owner) s e)
        match Payload.written w.view payload with
        | .ok _ => ∃ id, done.2.answer = .ok (.range id) ∧
            Undone w ⟨start, .int e, owner⟩ (done.1.overwrite host id before)
        | .error fault => done = (w, .fail fault)) ∧
    ∀ (index payload : Value) (id : RangeId),
      let done := w.perform host (.ofSequence owner (.insertAt index payload))
      done.2.answer = .ok (.range id) →
      ∃ i : Nat, index.whole? = some (i : Int) ∧
        ∀ nothing ∈ [Value.null, .list []],
          Undone w ⟨index, .int i, owner⟩ (done.1.overwrite host id nothing) := by
  refine ⟨fun start stop s e starts stops ordered within solid payload => ?_,
    fun index payload id => ?_⟩
  · intro done before
    split
    case h_1 run written =>
      have bounds : (0 : Int) ≤ s ∧ (s : Int) ≤ e ∧ (e : Int) ≤ (w.entries owner).length := by
        omega
      have plans : (w.plan host (.ofSequence owner (.replaceRange start stop payload))).answer =
          .ok (.splice ⟨owner, start, s, e, run⟩) := by
        refine (replaceRange_of_whole? owner starts stops written).trans (if_pos bounds)
      obtain ⟨tokens, stood, notEmpty⟩ := Entries.exists_tokens_of_solid solid
      refine ⟨w.ranges.length, answer_perform_of_splice plans, ?_⟩
      refine undone_of_splice held starts ordered within plans (fun after stands => ?_) stood
      have same : before = .ofEntries (tokens.map some) := congrArg Value.ofEntries stood
      rw [same]
      exact tokensFor_ofEntries after host owner stands notEmpty
    case h_2 fault unwritten =>
      have fails := replaceRange_of_error starts stops ordered within unwritten
      have plans : w.plan host (.ofSequence owner (.replaceRange start stop payload)) =
          .ofExcept (.error fault) := congrArg Attempt.ofExcept fails
      exact perform_of_plan plans
  · intro done answered
    cases inserts : w.insertAt owner index payload with
    | error fault =>
      have fails : (w.plan host (.ofSequence owner (.insertAt index payload))).answer =
          .error fault := inserts
      cases (perform_of_error fails).1.symm.trans answered
    | ok change =>
      have plans : (w.plan host (.ofSequence owner (.insertAt index payload))).answer =
          .ok change := inserts
      rcases insertAt_cases inserts with rfl | ⟨i, tokens, counts, within, rfl⟩
      · cases (answer_perform_of_nothing plans).symm.trans answered
      · cases (answer_perform_of_splice plans).symm.trans answered
        have between : Entries.window (w.entries owner) i i = [] := by
          simp [Entries.window]
        refine ⟨i, counts, fun nothing member => ?_⟩
        have settles (after : Workspace) (stands : List Entry) :
            after.tokensFor host owner stands nothing = .ok [] := by
          simp only [List.mem_cons, List.not_mem_nil, or_false] at member
          rcases member with rfl | rfl
          · exact tokensFor_null after host owner stands
          · exact tokensFor_nil after host owner stands
        exact undone_of_splice held counts (Nat.le_refl i) within plans settles between

/-- Two tokens between gaps give way to three, and behind the last gap a text is inserted that is
not lexed. A number cannot be written in the first place. -/
theorem edits_undone_between_gaps :
    let host : Host := ⟨fun _ => .ok, fun _ _ => .ok⟩
    let w : Workspace := ⟨[⟨[none, some "a", some "b", some ""], Lexer.standard⟩], [], []⟩
    let replacing := fun payload =>
      w.perform host (.ofSequence 0 (.replaceRange (.bool true) (.int 3) payload))
    let replaced := replacing (.list [.text "x", .null, .int 7, .text "y z"])
    let inserted := w.perform host (.ofSequence 0 (.insertAt (.int 4) (.text "n m")))
    replaced.1.entries 0 = [none, some "x", some "7", some "y z", some ""] ∧
      Undone w ⟨.bool true, .int 3, 0⟩
        (replaced.1.overwrite host 0 (.list [.text "a", .text "b"])) ∧
      replacing (.int 5) = (w, .fail .wrongKind) ∧
      inserted.1.entries 0 = [none, some "a", some "b", some "", some "n m"] ∧
      Undone w ⟨.int 4, .int 4, 0⟩ (inserted.1.overwrite host 0 .null) := by
  intro host w replacing replaced inserted
  obtain ⟨replaces, inserts⟩ := @edits_undone w 0 (by decide) host
  have between := replaces (.bool true) (.int 3) 1 3 rfl rfl (by decide) (by decide) (by decide)
  obtain ⟨id, answered, undone⟩ := between (.list [.text "x", .null, .int 7, .text "y z"])
  obtain rfl : 0 = id := by cases answered; rfl
  obtain ⟨i, counts, gone⟩ := inserts (.int 4) (.text "n m") 0 rfl
  obtain rfl : 4 = i := Int.ofNat_inj.mp (Option.some.inj counts)
  exact ⟨rfl, undone, between (.int 5), rfl, gone .null (by simp)⟩

end Workspace

end TokenEditor
