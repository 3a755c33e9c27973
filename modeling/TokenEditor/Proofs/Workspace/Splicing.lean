import TokenEditor.Proofs.Entries.Slice
import TokenEditor.Proofs.Value.Whole
import TokenEditor.Workspace.Perform

/-!
# Edits as splices

The three edits of a sequence check their coordinates each in its own way, and all come to one
splice. Within the bounds they are the same edit where they name the same places, and outside them
each is refused and changes nothing.
-/

namespace TokenEditor.Workspace

section Planning

variable {w : Workspace} (owner : SequenceId) {start stop index run : Value} {s e i : Int}
  {written : List String}

theorem checkBounds_of_whole? (starts : start.whole? = some s) (stops : stop.whole? = some e) :
    w.checkBounds owner start stop =
      if 0 ≤ s ∧ s ≤ e ∧ e ≤ (w.entries owner).length then .ok ()
      else .error (.spliceOutside (start.shown w.view) (stop.shown w.view)
        (w.entries owner).length) := by
  simp only [checkBounds, Value.number_of_whole? starts, Value.number_of_whole? stops,
    bind, Except.bind, Number.isAtMost_whole]
  by_cases first : 0 ≤ s <;> by_cases order : s ≤ e <;>
    by_cases last : e ≤ (w.entries owner).length <;> simp [first, order, last] <;> rfl

theorem spliceAt_of_whole? (starts : start.whole? = some s) (stops : stop.whole? = some e) :
    spliceAt owner start stop written =
      .ok (.splice ⟨owner, start, s.toNat, e.toNat, written⟩) := by
  rw [spliceAt, Value.whole_eq_ok_iff.mpr starts, Value.whole_eq_ok_iff.mpr stops]
  rfl

theorem replaceRange_of_whole? (starts : start.whole? = some s) (stops : stop.whole? = some e)
    (defined : Payload.written w.view run = .ok written) :
    w.replaceRange owner start stop run =
      if 0 ≤ s ∧ s ≤ e ∧ e ≤ (w.entries owner).length then
        .ok (.splice ⟨owner, start, s.toNat, e.toNat, written⟩)
      else .error (.spliceOutside (start.shown w.view) (stop.shown w.view)
        (w.entries owner).length) := by
  rw [replaceRange, checkBounds_of_whole? owner starts stops, defined]
  split
  case isTrue => exact spliceAt_of_whole? owner starts stops
  case isFalse => rfl

theorem replaceAt_of_whole? (counts : index.whole? = some i)
    (defined : Payload.written w.view run = .ok written) :
    w.replaceAt owner index run =
      if 0 ≤ i ∧ i < (w.entries owner).length then
        .ok (.splice ⟨owner, index, i.toNat, i.toNat + 1, written⟩)
      else .error (.replacementOutside (index.shown w.view) (w.entries owner).length) := by
  rw [replaceAt, Value.place?_of_whole? counts, defined]
  split <;> rfl

theorem insertAt_of_whole? (counts : index.whole? = some i)
    (defined : Payload.written w.view run = .ok written) :
    w.insertAt owner index run =
      if 0 ≤ i ∧ i ≤ (w.entries owner).length then
        .ok (if written = [] then .nothing .null
          else .splice ⟨owner, index, i.toNat, i.toNat, written⟩)
      else .error (.spliceOutside (index.shown w.view) (index.shown w.view)
        (w.entries owner).length) := by
  rw [insertAt, checkBounds_of_whole? owner counts counts, defined]
  by_cases inside : 0 ≤ i ∧ i ≤ (w.entries owner).length
  · rw [if_pos ⟨inside.1, Int.le_refl i, inside.2⟩, if_pos inside]
    cases written with
    | nil => rfl
    | cons token tokens => exact spliceAt_of_whole? owner counts counts
  · rw [if_neg fun bounds => inside ⟨bounds.1, bounds.2.2⟩, if_neg inside]
    rfl

theorem sliceEnd_of_whole? (counts : index.whole? = some i) :
    sliceEnd index = .ok (some i) := by
  unfold sliceEnd
  split
  case h_1 => cases counts
  case h_2 =>
    rw [Value.whole_eq_ok_iff.mpr counts]
    rfl

theorem window_of_whole? (starts : start.whole? = some s) (stops : stop.whole? = some e) :
    w.window owner start stop = .ok (Entries.shown (w.entries owner) s e) := by
  rw [window, sliceOf, sliceEnd_of_whole? starts, sliceEnd_of_whole? stops, Entries.shown,
    Entries.window, ← Slice.of_reach]
  rfl

end Planning

def settle (w : Workspace) (change : Change) : Workspace × Attempt Value :=
  let outcome := w.carryOut change
  (outcome.workspace, ⟨.ok outcome.answer, outcome.events⟩)

def conclude (w : Workspace) : Except Fault Change → Workspace × Attempt Value
  | .ok change => w.settle change
  | .error fault => (w, .fail fault)

def finish (w : Workspace) (subject : Option SequenceId) (planned : Attempt Change) :
    Workspace × Attempt Value :=
  let done := (w.afterEvents subject planned.events).conclude planned.answer
  (done.1, ⟨done.2.answer, planned.events ++ done.2.events⟩)

section Performing

variable {w : Workspace} {host : Host} {request : Request}

theorem perform_eq_finish :
    w.perform host request = w.finish (w.subject? request) (w.plan host request) := by
  unfold perform finish
  cases planned : (w.plan host request).answer with
  | ok change =>
    simp only [planned]
    rfl
  | error fault => simp [planned, conclude]

theorem finish_ofExcept (subject : Option SequenceId) (planned : Except Fault Change) :
    w.finish subject (.ofExcept planned) = w.conclude planned := by
  cases subject <;> rfl

theorem perform_of_plan {planned : Except Fault Change}
    (plans : w.plan host request = .ofExcept planned) :
    w.perform host request = w.conclude planned := by
  rw [perform_eq_finish, plans, finish_ofExcept]

theorem entries_settle_splice (edit : Edit) (id : SequenceId) :
    (w.settle (.splice edit)).1.entries id =
      if edit.owner = id ∧ id < w.sequences.length then edit.result (w.entries edit.owner)
      else w.entries id :=
  w.entries_setEntries edit.owner id _

theorem perform_entries_of_whole? {id : RangeId} {cursor : RangeCursor} {s e : Int}
    (found : w.ranges[id]? = some cursor) (starts : cursor.start.whole? = some s)
    (stops : cursor.stop.whole? = some e) :
    w.perform host (.ofRange id .entries) =
      (w, pure (.ofEntries (Entries.shown (w.entries cursor.owner) s e))) := by
  have planned : w.plan host (.ofRange id .entries) =
      .ofExcept (.ok (.nothing (.ofEntries (Entries.shown (w.entries cursor.owner) s e)))) := by
    rw [plan, found]
    simp only [planRange, window_of_whole? cursor.owner starts stops]
    rfl
  exact perform_of_plan planned

theorem perform_entries_of_range {id : RangeId} {owner : SequenceId} {start stop : Nat}
    (found : w.ranges[id]? = some ⟨.int start, .int stop, owner⟩) (ordered : start ≤ stop)
    (within : stop ≤ (w.entries owner).length) :
    w.perform host (.ofRange id .entries) =
      (w, pure (.ofEntries (((w.entries owner).take stop).drop start))) := by
  rw [perform_entries_of_whole? found (Value.whole?_int start) (Value.whole?_int stop),
    Entries.shown_of_le ordered within]
  rfl

end Performing

/-- What it comes to when `run` takes the place of the entries of `owner` from `start` up to `stop`:
the answer is a new cursor over what was written, which shows just that. -/
structure Replaced (w : Workspace) (host : Host) (owner : SequenceId) (start stop : Int)
    (run : List String) (done : Workspace × Attempt Value) : Prop where
  answer : done.2.answer = .ok (.range w.ranges.length)
  cursor : done.1.ranges = w.ranges ++ [⟨.int start, .int (start + run.length), owner⟩]
  entries : done.1.entries owner =
    (w.entries owner).take start.toNat ++ run.map some ++ (w.entries owner).drop stop.toNat
  others : ∀ other, other ≠ owner → done.1.entries other = w.entries other
  shown : (done.1.perform host (.ofRange w.ranges.length .entries)).2.answer =
    .ok (.list (run.map .text))

def Refused (w : Workspace) (done : Workspace × Attempt Value) : Prop :=
  done.1 = w ∧ ∃ fault, done.2.answer = .error fault ∧ fault.kind = .staleCursor

section Edits

variable {w : Workspace} (host : Host) {owner : SequenceId} {run : List String}

theorem replaced_settle {start stop : Nat} (held : owner < w.sequences.length)
    (ordered : start ≤ stop) (within : stop ≤ (w.entries owner).length) :
    Replaced w host owner start stop run
      (w.settle (.splice ⟨owner, .int start, start, stop, run⟩)) := by
  let edit : Edit := ⟨owner, .int start, start, stop, run⟩
  have entries := entries_settle_splice (w := w) edit
  have own : (w.settle (.splice edit)).1.entries owner =
      (w.entries owner).take start ++ run.map some ++ (w.entries owner).drop stop := by
    rw [entries owner, if_pos ⟨rfl, held⟩]
    rfl
  have inside : ((w.entries owner).take start).length = start :=
    List.length_take_of_le (Nat.le_trans ordered within)
  refine ⟨rfl, rfl, own, fun other apart => ?_, ?_⟩
  · rw [entries other, if_neg fun both => apart both.1.symm]
  · have found : (w.settle (.splice edit)).1.ranges[w.ranges.length]? =
        some ⟨.int start, .int (start + run.length : Nat), owner⟩ := by
      simp [edit, settle, carryOut, addRange, Edit.cursor]
    have written : (((w.settle (.splice edit)).1.entries owner).take (start + run.length)).drop
        start = run.map some := by
      rw [own, List.take_left' (by simp [inside]), List.drop_left' inside]
    have reach : start + run.length ≤ ((w.settle (.splice edit)).1.entries owner).length := by
      rw [own, List.length_append, List.length_append, inside, List.length_map]
      exact Nat.le_add_right _ _
    rw [perform_entries_of_range found (Nat.le_add_right start run.length) reach, written,
      Attempt.pure_answer, Value.ofEntries, List.map_map]
    rfl

theorem refused_conclude {fault : Fault} (stale : fault.kind = .staleCursor) :
    Refused w (w.conclude (.error fault)) :=
  ⟨rfl, fault, rfl, stale⟩

section Defined

variable {payload : Value} (defined : Payload.written w.view payload = .ok run)

include defined

theorem perform_replaceRange (owner : SequenceId) (start stop : Int) :
    w.perform host (.ofSequence owner (.replaceRange (.int start) (.int stop) payload)) =
      w.conclude (if 0 ≤ start ∧ start ≤ stop ∧ stop ≤ (w.entries owner).length then
          .ok (.splice ⟨owner, .int start, start.toNat, stop.toNat, run⟩)
        else .error (.spliceOutside ((Value.int start).shown w.view) ((Value.int stop).shown w.view)
          (w.entries owner).length)) := by
  rw [← replaceRange_of_whole? owner (Value.whole?_int start) (Value.whole?_int stop) defined]
  exact perform_of_plan rfl

theorem perform_replaceAt (owner : SequenceId) (index : Int) :
    w.perform host (.ofSequence owner (.replaceAt (.int index) payload)) =
      w.conclude (if 0 ≤ index ∧ index < (w.entries owner).length then
          .ok (.splice ⟨owner, .int index, index.toNat, index.toNat + 1, run⟩)
        else .error (.replacementOutside ((Value.int index).shown w.view)
          (w.entries owner).length)) := by
  rw [← replaceAt_of_whole? owner (Value.whole?_int index) defined]
  exact perform_of_plan rfl

theorem perform_insertAt (owner : SequenceId) (index : Int) :
    w.perform host (.ofSequence owner (.insertAt (.int index) payload)) =
      w.conclude (if 0 ≤ index ∧ index ≤ (w.entries owner).length then
          .ok (if run = [] then .nothing .null
            else .splice ⟨owner, .int index, index.toNat, index.toNat, run⟩)
        else .error (.spliceOutside ((Value.int index).shown w.view)
          ((Value.int index).shown w.view) (w.entries owner).length)) := by
  rw [← insertAt_of_whole? owner (Value.whole?_int index) defined]
  exact perform_of_plan rfl

theorem replaceRange_replaced_or_refused (held : owner < w.sequences.length) (start stop : Int) :
    if 0 ≤ start ∧ start ≤ stop ∧ stop ≤ (w.entries owner).length then
      Replaced w host owner start stop run
        (w.perform host (.ofSequence owner (.replaceRange (.int start) (.int stop) payload)))
    else Refused w
      (w.perform host (.ofSequence owner (.replaceRange (.int start) (.int stop) payload))) := by
  rw [perform_replaceRange host defined]
  split
  case isTrue bounds =>
    obtain ⟨first, rfl⟩ := Int.eq_ofNat_of_zero_le bounds.1
    obtain ⟨last, rfl⟩ := Int.eq_ofNat_of_zero_le (Int.le_trans bounds.1 bounds.2.1)
    exact replaced_settle host held (Int.ofNat_le.mp bounds.2.1) (Int.ofNat_le.mp bounds.2.2)
  case isFalse => exact refused_conclude rfl

theorem replaceAt_agrees (owner : SequenceId) (index : Int) :
    if 0 ≤ index ∧ index < (w.entries owner).length then
      w.perform host (.ofSequence owner (.replaceAt (.int index) payload)) =
        w.perform host
          (.ofSequence owner (.replaceRange (.int index) (.int (index + 1)) payload))
    else
      Refused w (w.perform host (.ofSequence owner (.replaceAt (.int index) payload))) ∧
        Refused w (w.perform host
          (.ofSequence owner (.replaceRange (.int index) (.int (index + 1)) payload))) := by
  rw [perform_replaceAt host defined, perform_replaceRange host defined]
  split
  case isTrue inside =>
    have next : (index + 1).toNat = index.toNat + 1 := by omega
    rw [if_pos (by omega), next]
  case isFalse outside =>
    rw [if_neg (by omega)]
    exact ⟨refused_conclude rfl, refused_conclude rfl⟩

theorem insertAt_agrees (owner : SequenceId) (index : Int) :
    if 0 ≤ index ∧ index ≤ (w.entries owner).length then
      w.perform host (.ofSequence owner (.insertAt (.int index) payload)) =
        if run = [] then (w, pure .null)
        else w.perform host
          (.ofSequence owner (.replaceRange (.int index) (.int index) payload))
    else
      Refused w (w.perform host (.ofSequence owner (.insertAt (.int index) payload))) ∧
        Refused w (w.perform host
          (.ofSequence owner (.replaceRange (.int index) (.int index) payload))) := by
  rw [perform_insertAt host defined, perform_replaceRange host defined]
  split
  case isTrue inside =>
    rw [if_pos (⟨inside.1, Int.le_refl index, inside.2⟩ :
      0 ≤ index ∧ index ≤ index ∧ index ≤ (w.entries owner).length)]
    split <;> rfl
  case isFalse outside =>
    rw [if_neg (by omega)]
    exact ⟨refused_conclude rfl, refused_conclude rfl⟩

end Defined

/-- Every edit is a splice, and the three kinds of edit agree: within the bounds one entry is
replaced as the range of it is, and insertion is replacement of the empty range, save that it leaves
no cursor behind where there is nothing to insert. -/
theorem splices_agree {payload : Value} (held : owner < w.sequences.length)
    (defined : Payload.written w.view payload = .ok run) :
    let length : Int := (w.entries owner).length
    let replaced := fun start stop : Int =>
      w.perform host (.ofSequence owner (.replaceRange (.int start) (.int stop) payload))
    let replacedAt := fun index : Int =>
      w.perform host (.ofSequence owner (.replaceAt (.int index) payload))
    let inserted := fun index : Int =>
      w.perform host (.ofSequence owner (.insertAt (.int index) payload))
    (∀ start stop : Int,
      if 0 ≤ start ∧ start ≤ stop ∧ stop ≤ length then
        Replaced w host owner start stop run (replaced start stop)
      else Refused w (replaced start stop)) ∧
    (∀ index : Int,
      if 0 ≤ index ∧ index < length then replacedAt index = replaced index (index + 1)
      else Refused w (replacedAt index) ∧ Refused w (replaced index (index + 1))) ∧
    ∀ index : Int,
      if 0 ≤ index ∧ index ≤ length then
        inserted index = (if run = [] then (w, pure .null) else replaced index index) ∧
          (inserted index).1.entries owner = (replaced index index).1.entries owner
      else Refused w (inserted index) ∧ Refused w (replaced index index) := by
  intro length replaced replacedAt inserted
  refine ⟨replaceRange_replaced_or_refused host defined held, replaceAt_agrees host defined owner,
    fun index => ?_⟩
  have agrees : if 0 ≤ index ∧ index ≤ length then
      inserted index = (if run = [] then (w, pure .null) else replaced index index)
      else Refused w (inserted index) ∧ Refused w (replaced index index) :=
    insertAt_agrees host defined owner index
  have point : if 0 ≤ index ∧ index ≤ index ∧ index ≤ length then
      Replaced w host owner index index run (replaced index index)
      else Refused w (replaced index index) :=
    replaceRange_replaced_or_refused host defined held index index
  split
  case isTrue inside =>
    rw [if_pos inside] at agrees
    rw [if_pos ⟨inside.1, Int.le_refl index, inside.2⟩] at point
    refine ⟨agrees, ?_⟩
    rw [agrees]
    split
    case isTrue empty =>
      rw [point.entries, empty, List.map_nil, List.append_nil, List.take_append_drop]
    case isFalse => rfl
  case isFalse outside =>
    rw [if_neg outside] at agrees
    exact agrees

theorem splices_agree_beside_gap :
    let host : Host := ⟨fun _ => .ok, fun _ _ => .ok⟩
    let w : Workspace := ⟨[⟨[some "a", none, some "b"], Lexer.standard⟩], [], []⟩
    let payload := Value.list [.text "x", .null, .text "", .int 7]
    0 < w.sequences.length ∧ Payload.written w.view payload = .ok ["x", "7"] ∧
    (w.perform host (.ofSequence 0 (.replaceAt (.int 1) payload))).1.entries 0 =
      [some "a", some "x", some "7", some "b"] ∧
    w.perform host (.ofSequence 0 (.insertAt (.int 3) payload)) =
      w.perform host (.ofSequence 0 (.replaceRange (.int 3) (.int 3) payload)) ∧
    Refused w (w.perform host (.ofSequence 0 (.replaceRange (.int (-1)) (.int 2) payload))) := by
  intro host w payload
  have held : 0 < w.sequences.length := by decide
  have defined : Payload.written w.view payload = .ok ["x", "7"] := by rfl
  obtain ⟨ranges, single, point⟩ := splices_agree host held defined
  have outside := ranges (-1) 2
  rw [if_neg (by decide)] at outside
  refine ⟨held, defined, ?_, (point 3).1, outside⟩
  rw [show w.perform host (.ofSequence 0 (.replaceAt (.int 1) payload)) = _ from single 1]
  exact (ranges 1 2).entries

end Edits

end TokenEditor.Workspace
