import TokenEditor.Proofs.Growth
import TokenEditor.Proofs.Workspace.Course
import TokenEditor.Proofs.Workspace.SameContent

/-!
# Requests that fail

A request is planned as a whole and then carried out, but this is no more than a way to describe it:
done step by step, each request comes to the same. So nothing is left behind by one that fails,
although some of its steps write before others check. What can have happened by then is that a lexer
has been used.
-/

namespace TokenEditor

/-- What is to be computed is not lexed before it is called. -/
theorem Payload.ofValue_cases (host : Host) (lexer : Lexer) (view : View) (value : Value) :
    (∃ callable, ofValue host lexer view value = pure (computed callable)) ∨
      ∃ answer events, ofValue host lexer view value = ⟨fixed <$> answer, events⟩ := by
  unfold ofValue
  split
  case h_1 tokens => exact .inr ⟨.ok tokens, [], rfl⟩
  case h_2 callable => exact .inl ⟨callable, rfl⟩
  case h_3 => exact .inl ⟨_, rfl⟩
  case h_4 => exact .inl ⟨_, rfl⟩
  case h_5 =>
    refine .inr ⟨(listed host lexer view value).answer, (listed host lexer view value).events, ?_⟩
    rw [bind_pure_comp, ← Attempt.map_answer, ← Attempt.map_events fixed]

namespace Course

variable {α β : Type}

theorem pure_apply (a : α) (w : Workspace) : (pure a : Course α) w = (w, pure a) := rfl

theorem here_bind (next : Workspace → Course α) (w : Workspace) :
    ((here >>= next : Course α)) w = next w w := rfl

theorem change_bind (f : Workspace → Workspace) (next : Unit → Course α) (w : Workspace) :
    ((change f >>= next : Course α)) w = next () (f w) := rfl

theorem ok_bind (a : α) (next : α → Course β) (w : Workspace) :
    ((liftM (Except.ok a : Except Fault α) : Course α) >>= next) w = next a w := rfl

theorem error_bind (fault : Fault) (next : α → Course β) (w : Workspace) :
    ((liftM (Except.error fault : Except Fault α) : Course α) >>= next) w = (w, .fail fault) := rfl

theorem note_bind (event : Event) (next : Unit → Course α) (w : Workspace) :
    ((liftM (Attempt.note event) : Course Unit) >>= next) w =
      ((next () w).1, ⟨(next () w).2.answer, event :: (next () w).2.events⟩) := rfl

theorem attempt_bind (x : Attempt α) (next : α → Course β) (w : Workspace) :
    ((liftM x : Course α) >>= next) w =
      match x.answer with
      | .ok a => ((next a w).1, ⟨(next a w).2.answer, x.events ++ (next a w).2.events⟩)
      | .error fault => (w, ⟨.error fault, x.events⟩) := rfl

theorem makeRange_of_ordered {w : Workspace} (owner : SequenceId) {start stop : Value}
    (ordered : stop.isBefore w.view start = .ok false) :
    makeRange owner start stop w = w.settle (.addRange ⟨start, stop, owner⟩) := by
  rw [makeRange, here_bind, ordered, ok_bind]
  rfl

/-- The cursor over what has been written can always be made. -/
theorem splice_of_whole? {w : Workspace} (owner : SequenceId) {start stop : Value} {s e : Int}
    (run : List String) (starts : start.whole? = some s) (stops : stop.whole? = some e)
    (inside : 0 ≤ s) :
    splice owner start stop run w = w.settle (.splice ⟨owner, start, s.toNat, e.toNat, run⟩) := by
  obtain ⟨first, rfl⟩ := Int.eq_ofNat_of_zero_le inside
  have ordered : ∀ view : View,
      (Value.int (first + run.length)).isBefore view start = .ok false := by
    intro view
    rw [Value.isBefore_of_whole? view (Value.whole?_int _) starts, Except.ok.injEq,
      decide_eq_false_iff_not]
    omega
  unfold splice
  rw [here_bind, Value.whole_eq_ok_iff.mpr starts, Value.whole_eq_ok_iff.mpr stops, ok_bind,
    ok_bind, change_bind, note_bind, Value.shift_of_whole? starts, ok_bind,
    makeRange_of_ordered owner (ordered _)]
  rfl

theorem splice_of_checked {w : Workspace} {owner : SequenceId} {start stop : Value}
    (run : List String) (checked : w.checkBounds owner start stop = .ok ()) :
    splice owner start stop run w = w.conclude (Workspace.spliceAt owner start stop run) := by
  cases starts : start.whole? with
  | none =>
    have noWhole : start.whole = .error .wrongKind := by rw [Value.whole, starts]
    rw [splice, here_bind, noWhole, error_bind, Workspace.spliceAt, noWhole]
    rfl
  | some s =>
    cases stops : stop.whole? with
    | none =>
      have noWhole : stop.whole = .error .wrongKind := by rw [Value.whole, stops]
      rw [splice, here_bind, Value.whole_eq_ok_iff.mpr starts, ok_bind, noWhole, error_bind,
        Workspace.spliceAt, Value.whole_eq_ok_iff.mpr starts, noWhole]
      rfl
    | some e =>
      rw [Workspace.checkBounds_of_whole? owner starts stops] at checked
      split at checked
      case isTrue bounds =>
        rw [splice_of_whole? owner run starts stops bounds.1,
          Workspace.spliceAt_of_whole? owner starts stops]
        rfl
      case isFalse => cases checked

section Edits

variable (w : Workspace) (owner : SequenceId)

theorem replaceRange_eq_conclude (start stop run : Value) :
    replaceRange owner start stop run w = w.conclude (w.replaceRange owner start stop run) := by
  unfold replaceRange Workspace.replaceRange
  rw [here_bind]
  cases checked : w.checkBounds owner start stop with
  | error fault => rfl
  | ok =>
    cases defined : Payload.written w.view run with
    | error fault => rfl
    | ok written =>
      rw [ok_bind, ok_bind, splice_of_checked written checked]
      rfl

theorem insertAt_eq_conclude (index run : Value) :
    insertAt owner index run w = w.conclude (w.insertAt owner index run) := by
  unfold insertAt Workspace.insertAt
  rw [here_bind]
  cases checked : w.checkBounds owner index index with
  | error fault => rfl
  | ok =>
    cases defined : Payload.written w.view run with
    | error fault => rfl
    | ok written =>
      rw [ok_bind, ok_bind]
      cases written with
      | nil => rfl
      | cons token tokens => exact splice_of_checked (token :: tokens) checked

theorem replaceAt_eq_conclude (index run : Value) :
    replaceAt owner index run w = w.conclude (w.replaceAt owner index run) := by
  unfold replaceAt Workspace.replaceAt
  rw [here_bind]
  cases placed : index.place? (w.entries owner).length with
  | error fault =>
    simp only [placed]
    rfl
  | ok place? =>
    cases place? with
    | none =>
      simp only [placed]
      rfl
    | some place =>
      obtain ⟨counts, -⟩ := Value.whole?_of_place? placed
      cases defined : Payload.written w.view run with
      | error fault =>
        simp only [placed]
        rfl
      | ok written =>
        simp only [placed, ok_bind, Value.shift_of_whole? counts]
        rw [splice_of_whole? owner written counts (Value.whole?_int _) (Int.natCast_nonneg place)]
        rfl

end Edits

theorem looking_eq_finish (subject : Option SequenceId) (f : Workspace → Attempt Change)
    (w : Workspace) : looking subject f w = w.finish subject (f w) := by
  unfold looking Workspace.finish
  simp only [Bind.bind, Course.bind, lexing]
  cases (f w).answer with
  | ok change => rfl
  | error fault => simp [Workspace.conclude]

/-- What has been lexed decides the plan; a workspace with the same content plans the same. -/
theorem lexing_bind_eq_finish {subject : Option SequenceId} {x : Workspace → Attempt α}
    {next : α → Course Value} {planned : α → Except Fault Change} {w : Workspace}
    (concludes : ∀ a ready, Workspace.SameContent w ready →
      next a ready = ready.conclude (planned a)) :
    (lexing subject x >>= next) w = w.finish subject (x w >>= fun a => liftM (planned a)) := by
  have same := Workspace.sameContent_afterEvents w subject (x w).events
  simp only [Workspace.finish, Bind.bind, Course.bind, Attempt.bind, lexing]
  cases (x w).answer with
  | ok a =>
    simp only [concludes a _ same]
    cases planned a with
    | ok change => simp [liftM, monadLift, MonadLift.monadLift, Attempt.ofExcept]
    | error fault => simp [liftM, monadLift, MonadLift.monadLift, Attempt.ofExcept]
  | error fault => simp [Workspace.conclude]

theorem attempt_bind_eq_finish {subject : Option SequenceId} {x : Attempt α}
    {next : α → Course Value} {planned : α → Change} {w : Workspace} (silent : x.Silent)
    (settles : ∀ a, x.answer = .ok a → next a w = w.settle (planned a)) :
    ((liftM x : Course α) >>= next) w =
      w.finish subject (x >>= fun a => pure (planned a)) := by
  have unused : ∀ events, events.any Event.isLexing = false →
      w.afterEvents subject events = w := by
    intro events none
    cases subject with
    | none => rfl
    | some id => exact if_neg (by rw [none]; decide)
  obtain ⟨answer, events⟩ := x
  cases answer with
  | error fault =>
    rw [Workspace.finish, Attempt.error_bind, unused events silent, attempt_bind]
    simp [Workspace.conclude]
  | ok a =>
    rw [Workspace.finish, unused _ (silent.bind fun a => Attempt.silent_pure (planned a)),
      attempt_bind, Attempt.ok_bind]
    simp only [settles a rfl, Workspace.conclude, Attempt.pure_answer, Attempt.pure_events,
      List.append_nil]

/-- A run that has been found can always be made a cursor. -/
theorem select_eq_finish (host : Host) (owner : SequenceId) (start step criterion : Value)
    (w : Workspace) :
    select host owner start step criterion w =
      w.finish owner (do
        return Workspace.cursorOrNull (← w.run host owner start step criterion)) := by
  unfold select Workspace.run
  rw [here_bind]
  simp only [bind_assoc, pure_bind]
  refine attempt_bind_eq_finish (Growth.silent_select ..) fun ends? found => ?_
  cases ends? with
  | none => rfl
  | some ends => exact makeRange_of_ordered owner (Growth.select_ordered found)

theorem bind_assoc_apply {γ : Type} (course : Course α) (f : α → Course β) (g : β → Course γ)
    (w : Workspace) : (course >>= f >>= g) w = (course >>= fun a => f a >>= g) w := by
  simp only [Bind.bind, Course.bind]
  generalize course w = done
  obtain ⟨ready, answer, events⟩ := done
  cases answer with
  | error fault => rfl
  | ok a =>
    simp only
    generalize f a ready = done
    obtain ⟨later, answer, more⟩ := done
    cases answer with
    | error fault => rfl
    | ok b => simp

theorem makeRange_reshape {w : Workspace} (owner : SequenceId) {start stop : Value}
    (f : RangeCursor → RangeCursor) (ordered : stop.isBefore w.view start = .ok false) :
    (makeRange owner start stop >>= fun selected => reshape selected f) w =
      w.settle (.addRange (f ⟨start, stop, owner⟩)) := by
  have reshaped : ∀ run : RangeCursor,
      (w.ranges ++ [run]).modify w.ranges.length f = w.ranges ++ [f run] := by
    intro run
    rw [List.modify_eq_take_cons_drop (by simp)]
    simp
  simp only [Bind.bind, Course.bind, makeRange_of_ordered owner ordered, Workspace.settle,
    Workspace.carryOut, Workspace.addRange, reshape, Course.change, reshaped]
  rfl

/-- Selecting a run and reshaping it is selecting the reshaped run. -/
theorem select_reshape_eq_finish (host : Host) (owner : SequenceId)
    (start step criterion : Value) (f : RangeCursor → RangeCursor) (w : Workspace) :
    (select host owner start step criterion >>= fun selected => reshape selected f) w =
      w.finish owner (do
        let found ← w.run host owner start step criterion
        return Workspace.cursorOrNull (found.map f)) := by
  unfold select Workspace.run
  rw [bind_assoc_apply, here_bind, bind_assoc_apply]
  simp only [bind_assoc, pure_bind]
  refine attempt_bind_eq_finish (Growth.silent_select ..) fun ends? found => ?_
  cases ends? with
  | none => rfl
  | some ends => exact makeRange_reshape owner f (Growth.select_ordered found)

theorem lexing_bind (subject : Option SequenceId) (f : Workspace → Attempt α)
    (next : α → Course β) (w : Workspace) :
    (lexing subject f >>= next) w =
      let ready := w.afterEvents subject (f w).events
      match (f w).answer with
      | .ok a =>
          ((next a ready).1, ⟨(next a ready).2.answer, (f w).events ++ (next a ready).2.events⟩)
      | .error fault => (ready, ⟨.error fault, (f w).events⟩) := rfl

/-- Of the two steps one at most lexes: what is computed is not lexed before it is called. -/
theorem resolve_eq_lexing (host : Host) (owner : SequenceId)
    (current : Workspace → Except Fault Value) (payload : Value) :
    resolve host owner current payload =
      lexing owner fun w => w.resolve host owner (current w) payload := by
  funext w
  rw [resolve, lexing_bind, lexing]
  simp only [Workspace.resolve]
  rcases Payload.ofValue_cases host (w.lexer owner) w.view payload with
    ⟨callable, defined⟩ | ⟨answer, events, defined⟩
  -- To be computed: the first step has no events, and the second finds the same workspace.
  · rw [defined, pure_bind]
    simp only [Attempt.pure_answer, Attempt.pure_events, Workspace.afterEvents_nil, lexing_bind]
    generalize Payload.tokens host (w.lexer owner) w.view (current w) (.computed callable) = found
    obtain ⟨answer, events⟩ := found
    cases answer with
    | error fault => rfl
    | ok tokens =>
      rw [Attempt.ok_bind]
      simp [pure_apply]
  -- Fixed: whatever the first step has lexed, the second only hands it on.
  · cases answer with
    | error fault =>
      rw [defined]
      rfl
    | ok tokens =>
      have known : Payload.ofValue host (w.lexer owner) w.view payload =
        ⟨.ok (.fixed tokens), events⟩ := defined
      simp [known, lexing_bind, Payload.tokens, Workspace.afterEvents_nil, pure_apply]

theorem replaceItem_eq_finish (host : Host) (cursor : ItemCursor) (payload : Value)
    (w : Workspace) :
    replaceItem host cursor payload w =
      w.finish cursor.owner (w.replaceItem host cursor payload) := by
  unfold replaceItem Workspace.replaceItem
  rw [resolve_eq_lexing]
  refine lexing_bind_eq_finish fun tokens ready same => ?_
  rw [replaceAt_eq_conclude, same.replaceAt]

theorem replaceRun_eq_finish (host : Host) (cursor : RangeCursor) (payload : Value)
    (w : Workspace) :
    replaceRun host cursor payload w =
      w.finish cursor.owner (w.replaceRun host cursor payload) := by
  unfold replaceRun Workspace.replaceRun
  rw [resolve_eq_lexing]
  refine lexing_bind_eq_finish fun tokens ready same => ?_
  rw [replaceRange_eq_conclude, same.replaceRange]

theorem insertFrom_eq_finish (host : Host) (cursor : ItemCursor) (distance : Int) (run : Value)
    (w : Workspace) :
    insertFrom host cursor distance run w =
      w.finish cursor.owner (w.insertFrom host cursor distance run) := by
  rw [insertFrom, Workspace.insertFrom_eq_away]
  cases cursor.away distance with
  | error fault => rfl
  | ok index =>
    rw [ok_bind]
    refine lexing_bind_eq_finish fun items ready same => ?_
    rw [insertAt_eq_conclude, same.insertAt]

theorem selectFrom_eq_finish (host : Host) (cursor : ItemCursor) (distance step : Int)
    (criterion : Value) (w : Workspace) :
    selectFrom host cursor distance step criterion w =
      w.finish cursor.owner (w.selectFrom host cursor distance step criterion) := by
  rw [selectFrom, Workspace.selectFrom_eq_away]
  cases cursor.away distance with
  | error fault => rfl
  | ok index => exact select_eq_finish host cursor.owner index (.int step) criterion w

theorem advance_eq_finish (host : Host) (id : ItemId) (cursor : ItemCursor)
    (caseSensitive : Value) (w : Workspace) :
    advance id cursor w =
      w.finish cursor.owner (w.planItem host id cursor (.next .null caseSensitive)) := by
  rw [advance, Workspace.planItem]
  cases cursor.index.shift 1 with
  | error fault => rfl
  | ok index => rfl

variable (host : Host) (w : Workspace)

theorem ofSequence_eq_finish (owner : SequenceId) (request : SequenceRequest) :
    ofSequence host owner request w = w.finish owner (w.planSequence host owner request) := by
  cases request with
  | select start step criterion => exact select_eq_finish host owner start step criterion w
  | replaceRange start stop run =>
    rw [ofSequence, replaceRange_eq_conclude]
    exact (Workspace.finish_ofExcept _ _).symm
  | replaceAt index run =>
    rw [ofSequence, replaceAt_eq_conclude]
    exact (Workspace.finish_ofExcept _ _).symm
  | insertAt index run =>
    rw [ofSequence, insertAt_eq_conclude]
    exact (Workspace.finish_ofExcept _ _).symm
  | _ => exact looking_eq_finish owner _ w

theorem ofItem_eq_finish (id : ItemId) (cursor : ItemCursor) (request : ItemRequest) :
    ofItem host id cursor request w =
      w.finish cursor.owner (w.planItem host id cursor request) := by
  cases request with
  | next wanted caseSensitive =>
    cases wanted with
    | null => exact advance_eq_finish host id cursor caseSensitive w
    | _ => exact looking_eq_finish cursor.owner _ w
  | replace payload => exact replaceItem_eq_finish host cursor payload w
  | insertBefore run => exact insertFrom_eq_finish host cursor 0 run w
  | insertAfter run => exact insertFrom_eq_finish host cursor 1 run w
  | select criterion => exact selectFrom_eq_finish host cursor 0 1 criterion w
  | selectPrevious criterion => exact selectFrom_eq_finish host cursor (-1) (-1) criterion w
  | selectNext criterion => exact selectFrom_eq_finish host cursor 1 1 criterion w
  | _ => exact looking_eq_finish cursor.owner _ w

theorem ofRange_eq_finish (id : RangeId) (cursor : RangeCursor) (request : RangeRequest) :
    ofRange host id cursor request w =
      w.finish cursor.owner (w.planRange host id cursor request) := by
  cases request with
  | extendLeft criterion => exact select_reshape_eq_finish host cursor.owner _ _ criterion _ w
  | extendRight criterion => exact select_reshape_eq_finish host cursor.owner _ _ criterion _ w
  | replace payload => exact replaceRun_eq_finish host cursor payload w
  | _ => exact looking_eq_finish cursor.owner _ w

theorem makeRange_eq_finish (owner : SequenceId) (start stop : Value) :
    makeRange owner start stop w = w.finish none (w.newRange owner start stop) := by
  rw [Workspace.newRange]
  cases ordered : stop.isBefore w.view start with
  | error fault =>
    rw [makeRange, here_bind, ordered, error_bind]
    rfl
  | ok reversed =>
    cases reversed with
    | true =>
      rw [makeRange, here_bind, ordered, ok_bind]
      rfl
    | false =>
      rw [makeRange_of_ordered owner ordered]
      rfl

/-- A request done step by step comes to what it is planned to come to, whatever its steps do. -/
theorem ofRequest_eq_perform (request : Request) :
    ofRequest host request w = w.perform host request := by
  rw [Workspace.perform_eq_finish]
  cases request with
  | newRange owner start stop => exact makeRange_eq_finish w owner start stop
  | ofSequence owner request => exact ofSequence_eq_finish host w owner request
  | ofItem id request =>
    rw [ofRequest, here_bind, Workspace.subject?, Workspace.plan]
    cases w.items[id]? with
    | none => rfl
    | some cursor => exact ofItem_eq_finish host w id cursor request
  | ofRange id request =>
    rw [ofRequest, here_bind, Workspace.subject?, Workspace.plan]
    cases w.ranges[id]? with
    | none => rfl
    | some cursor => exact ofRange_eq_finish host w id cursor request
  | _ => exact looking_eq_finish none _ w

end Course

namespace Workspace

variable {w : Workspace} {host : Host} {request : Request} {fault : Fault}

/-- A request that fails leaves every entry and every cursor as it was, also where it is done step
by step and each step writes, moves a cursor or makes one as soon as it can. -/
theorem failed_request_keeps_content
    (failed : (w.perform host request).2.answer = .error fault) :
    Course.ofRequest host request w = w.perform host request ∧
      SameContent w (w.perform host request).1 := by
  refine ⟨Course.ofRequest_eq_perform host w request, ?_⟩
  rw [perform_eq_finish, finish] at failed ⊢
  cases planned : (w.plan host request).answer with
  | ok change =>
    rw [planned] at failed
    cases failed
  | error fault => exact sameContent_afterEvents w _ _

/-- What is to be written is lexed before the place turns out to lie outside, which spends the
stream of the lexer; neither of the two cursors that stand there moves. -/
theorem failed_request_keeps_content_beside_spent_lexer :
    let host : Host := ⟨fun _ => .ok, fun _ _ => .ok⟩
    let lexer : Lexer := ⟨[], .fixed (.stream [.text "x"]), .bool false⟩
    let w : Workspace :=
      ⟨[⟨[some "a", none], lexer⟩], [⟨.int 5, 0⟩, ⟨.int 5, 0⟩], [⟨.int 1, .int 2, 0⟩]⟩
    let done := w.perform host (.ofItem 0 (.replace (.text "b")))
    done.2.answer = .error (.replacementOutside "5" 2) ∧
      (done.1.lexer 0).cutter = .fixed (.stream []) ∧ SameContent w done.1 := by
  intro host lexer w done
  have failed : done.2.answer = .error (.replacementOutside "5" 2) := by rfl
  exact ⟨failed, rfl, (failed_request_keeps_content failed).2⟩

end Workspace

end TokenEditor
