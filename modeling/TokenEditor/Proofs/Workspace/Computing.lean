import TokenEditor.Proofs.Workspace.Showing

/-!
# Payloads that are computed

A function is handed what a cursor holds, and what it gives is taken as if it had been the payload
in the first place: it is lexed, listed, turned down and written by the same rules. So there are two
ways to one outcome, and only the call of the function tells them apart.
-/

namespace TokenEditor

/-- Whether a payload is there to be called, and not itself what is to be written. -/
def Value.isComputed : Value → Bool
  | transform _ | function _ | predicate _ => true
  | _ => false

/-- A payload comes down to a call of the function `f`. -/
inductive Payload.CallsFor (f : CallableId) : Value → Prop
  | function : CallsFor f (.function f)
  | transform : CallsFor f (.transform (.function f))

inductive Handle where
  | item (id : ItemId)
  | range (id : RangeId)

namespace Handle

def read : Handle → Request
  | item id => .ofItem id .token
  | range id => .ofRange id .entries

def replace (payload : Value) : Handle → Request
  | item id => .ofItem id (.replace payload)
  | range id => .ofRange id (.replace payload)

end Handle

namespace Workspace

def heldBy (w : Workspace) : Handle → Except Fault Value
  | .item id =>
      match w.items[id]? with
      | some cursor => Value.ofEntry <$> w.token cursor
      | none => .error .noSuchMember
  | .range id =>
      match w.ranges[id]? with
      | some cursor => Value.ofEntries <$> w.window cursor.owner cursor.start cursor.stop
      | none => .error .noSuchMember

/-- What is planned where a cursor lies, once it is known what to write. -/
def writeThrough (w : Workspace) (handle : Handle) (items : Value) : Except Fault Change :=
  match handle with
  | .item id =>
      match w.items[id]? with
      | some cursor => w.replaceAt cursor.owner cursor.index items
      | none => .error .noSuchMember
  | .range id =>
      match w.ranges[id]? with
      | some cursor => w.replaceRange cursor.owner cursor.start cursor.stop items
      | none => .error .noSuchMember

/-- A cursor covers the places from `start` up to `stop`, and these lie within its sequence. -/
inductive Covers (w : Workspace) : Handle → SequenceId → Nat → Nat → Prop
  | item {id : ItemId} {cursor : ItemCursor} {place : Nat} :
      w.items[id]? = some cursor → cursor.index.whole? = some (place : Int) →
      place < (w.entries cursor.owner).length →
      Covers w (.item id) cursor.owner place (place + 1)
  | range {id : RangeId} {cursor : RangeCursor} {start stop : Nat} :
      w.ranges[id]? = some cursor → cursor.start.whole? = some (start : Int) →
      cursor.stop.whole? = some (stop : Int) → start ≤ stop →
      stop ≤ (w.entries cursor.owner).length →
      Covers w (.range id) cursor.owner start stop

/-- What writing between two places comes to: a fault that changes nothing, or a new range over the
tokens that stand there afterwards. -/
inductive Rewrites (w : Workspace) (owner : SequenceId) (start stop : Nat)
    (done : Workspace × Attempt Value) : Prop
  | fails {fault : Fault} :
      done.2.answer = .error fault → SameContent w done.1 → Rewrites w owner start stop done
  | writes {index : Value} {tokens : List String} :
      index.whole? = some (start : Int) → done.2.answer = .ok (.range w.ranges.length) →
      done.1.ranges = w.ranges ++ [⟨index, .int (start + tokens.length : Nat), owner⟩] →
      (∀ id < w.sequences.length, done.1.entries id =
        if owner = id then Entries.splice (w.entries owner) start stop tokens else w.entries id) →
      Rewrites w owner start stop done

section Resolving

variable {w : Workspace} {host : Host} {owner : SequenceId} {payload given current : Value}
  {f : CallableId}

theorem resolve_of_given (uncomputed : given.isComputed = false)
    (unready : ∀ tokens, given ≠ .literal tokens) (reading : Except Fault Value) :
    w.resolve host owner reading given =
      Value.list <$> Payload.listed host (w.lexer owner) w.view given := by
  have fixed : Payload.ofValue host (w.lexer owner) w.view given =
      Payload.fixed <$> Payload.listed host (w.lexer owner) w.view given := by
    cases given with
    | literal tokens => exact absurd rfl (unready tokens)
    | transform callable => cases uncomputed
    | function id => cases uncomputed
    | predicate id => cases uncomputed
    | _ => exact bind_pure_comp ..
  rw [resolve, fixed, bind_map_left]
  exact bind_pure_comp ..

theorem resolve_of_callsFor (calls : Payload.CallsFor f payload)
    (computes : host.transform f current = .ok given) :
    w.resolve host owner (.ok current) payload =
      ⟨.ok given, [.transformed current]⟩ >>= fun given =>
        Value.list <$> Payload.listed host (w.lexer owner) w.view given := by
  have called : host.call (.function f) current = ⟨.ok given, [.transformed current]⟩ := by
    rw [Host.call, computes]
  have computed : Payload.ofValue host (w.lexer owner) w.view payload =
      pure (.computed (.function f)) := by
    cases calls <;> rfl
  rw [resolve, computed, pure_bind, Payload.tokens, Attempt.liftM_ok, pure_bind, called,
    bind_assoc]
  rfl

/-- What stands at a cursor is not looked at for a payload that is not called. -/
theorem resolve_unread (uncomputed : payload.isComputed = false)
    (reading other : Except Fault Value) :
    w.resolve host owner reading payload = w.resolve host owner other payload := by
  by_cases ready : ∃ tokens, payload = .literal tokens
  · obtain ⟨tokens, rfl⟩ := ready
    rfl
  · have unready := not_exists.mp ready
    rw [resolve_of_given uncomputed unready, resolve_of_given uncomputed unready]

end Resolving

section Planning

variable {w : Workspace} {host : Host} {handle : Handle} {owner : SequenceId} {payload : Value}
  {start stop : Nat}

theorem plan_replace (subject : w.subject? handle.read = some owner) (payload : Value) :
    w.plan host (handle.replace payload) = (do
      w.writeThrough handle (← w.resolve host owner (w.heldBy handle) payload)) := by
  cases handle with
  | item id =>
    obtain ⟨cursor, found, rfl⟩ := Option.map_eq_some_iff.mp subject
    simp only [Handle.replace, plan, heldBy, writeThrough, found]
    rfl
  | range id =>
    obtain ⟨cursor, found, rfl⟩ := Option.map_eq_some_iff.mp subject
    simp only [Handle.replace, plan, heldBy, writeThrough, found]
    rfl

theorem plan_replace_of_uncomputed (subject : w.subject? handle.read = some owner)
    (uncomputed : payload.isComputed = false) (reading : Except Fault Value) :
    w.plan host (handle.replace payload) = (do
      w.writeThrough handle (← w.resolve host owner reading payload)) := by
  rw [plan_replace subject, resolve_unread uncomputed]

theorem Covers.subject (covers : w.Covers handle owner start stop) :
    w.subject? handle.read = some owner := by
  cases covers with
  | item found => exact subject_ofItem found _
  | range found => exact subject_ofRange found _

theorem token_of_whole? {cursor : ItemCursor} {place : Nat}
    (counts : cursor.index.whole? = some (place : Int))
    (within : place < (w.entries cursor.owner).length) :
    w.token cursor = .ok ((w.entries cursor.owner)[place]?.getD none) := by
  have inside : 0 ≤ (place : Int) ∧ (place : Int) < (w.entries cursor.owner).length :=
    ⟨Int.natCast_nonneg _, Int.ofNat_lt.mpr within⟩
  rw [Workspace.token, Value.place?_of_whole? counts, if_pos inside]
  rfl

theorem Covers.exists_held (covers : w.Covers handle owner start stop) (host : Host) :
    ∃ current, w.heldBy handle = .ok current ∧
      w.perform host handle.read = (w, pure current) := by
  cases covers with
  | @item id cursor _ found counts within =>
    have token := token_of_whole? counts within
    have planned : w.plan host (.ofItem id .token) =
        .ofExcept (.ok (.nothing (.ofEntry ((w.entries cursor.owner)[start]?.getD none)))) := by
      simp only [plan, found, planItem, token]
      rfl
    refine ⟨_, ?_, perform_of_plan planned⟩
    simp only [heldBy, found, token]
    rfl
  | @range id cursor _ _ found starts stops ordered within =>
    refine ⟨_, ?_, perform_entries_of_whole? found starts stops⟩
    simp only [heldBy, found, window_of_whole? _ starts stops]
    rfl

theorem Covers.writeThrough (covers : w.Covers handle owner start stop) {items : Value}
    {tokens : List String} (written : Payload.written w.view items = .ok tokens) :
    ∃ index : Value, index.whole? = some (start : Int) ∧
      w.writeThrough handle items = .ok (.splice ⟨owner, index, start, stop, tokens⟩) := by
  cases covers with
  | item found counts within =>
    refine ⟨_, counts, ?_⟩
    rw [Workspace.writeThrough, found]
    apply (replaceAt_of_whole? _ counts written).trans
    exact if_pos ⟨Int.natCast_nonneg _, Int.ofNat_lt.mpr within⟩
  | range found starts stops ordered within =>
    refine ⟨_, starts, ?_⟩
    rw [Workspace.writeThrough, found]
    apply (replaceRange_of_whole? _ starts stops written).trans
    exact if_pos ⟨Int.natCast_nonneg _, Int.ofNat_le.mpr ordered, Int.ofNat_le.mpr within⟩

end Planning

section Performing

variable {w : Workspace} {host : Host} {handle : Handle} {owner : SequenceId} {start stop : Nat}
  {f : CallableId} {payload given current : Value}

/-- A plan that says more on its way, but does not lex, comes to the same. -/
theorem perform_of_noted {request other : Request} {event : Event}
    (unlexed : event.isLexing = false) (subject : w.subject? request = w.subject? other)
    (plans : w.plan host request =
      ⟨(w.plan host other).answer, event :: (w.plan host other).events⟩) :
    w.perform host request =
      ((w.perform host other).1,
        ⟨(w.perform host other).2.answer, event :: (w.perform host other).2.events⟩) := by
  have ready : w.afterEvents (w.subject? request) (event :: (w.plan host other).events) =
      w.afterEvents (w.subject? other) (w.plan host other).events := by
    rw [subject]
    cases w.subject? other with
    | none => rfl
    | some id => rw [afterEvents, afterEvents, List.any_cons, unlexed, Bool.false_or]
  rw [perform_eq_finish, perform_eq_finish, finish, plans, ready]
  rfl

theorem rewrites_replace (covers : w.Covers handle owner start stop) (payload : Value) :
    w.Rewrites owner start stop (w.perform host (handle.replace payload)) := by
  have plans : w.plan host (handle.replace payload) = _ := plan_replace covers.subject payload
  cases resolves : (w.resolve host owner (w.heldBy handle) payload).answer with
  | error fault =>
    have fails := (congrArg Attempt.answer plans).trans (Attempt.answer_bind_of_error resolves _)
    obtain ⟨answer, same⟩ := perform_of_error fails
    exact .fails answer same
  | ok items =>
    obtain ⟨tokens, written⟩ := exists_written_of_resolve resolves
    obtain ⟨index, counts, writes⟩ := covers.writeThrough written
    have splices := (congrArg Attempt.answer plans).trans (Attempt.answer_bind_of_ok resolves _)
    rw [writes] at splices
    refine .writes counts (answer_perform_of_splice splices) (ranges_perform_of_splice splices) ?_
    intro id held
    exact entries_perform_of_splice splices held

theorem cuts_replace_of_uncomputed (subject : w.subject? handle.read = some owner)
    (uncomputed : payload.isComputed = false) :
    (w.lexer owner).Cuts (Event.calls (w.perform host (handle.replace payload)).2.events) := by
  rw [calls_perform, plan_replace_of_uncomputed subject uncomputed (.ok .null),
    Attempt.calls_bind fun _ => rfl]
  obtain ⟨cuts, cut, calls⟩ := hands_resolve w host owner .null payload
  have unhanded : Payload.handed .null payload = [] := by
    cases payload <;> first | rfl | cases uncomputed
  rw [calls, unhanded]
  exact cut

theorem perform_replace_of_callsFor (subject : w.subject? handle.read = some owner)
    (reads : w.heldBy handle = .ok current) (calls : Payload.CallsFor f payload)
    (computes : host.transform f current = .ok given) (uncomputed : given.isComputed = false)
    (unready : ∀ tokens, given ≠ .literal tokens) :
    let direct := w.perform host (handle.replace given)
    w.perform host (handle.replace payload) =
      (direct.1, ⟨direct.2.answer, .transformed current :: direct.2.events⟩) := by
  have plans : w.plan host (handle.replace payload) =
      ⟨.ok given, [.transformed current]⟩ >>= fun _ => w.plan host (handle.replace given) := by
    rw [plan_replace subject, plan_replace subject, reads, resolve_of_callsFor calls computes,
      resolve_of_given uncomputed unready, bind_assoc]
    rfl
  apply perform_of_noted rfl _ plans
  cases handle <;> rfl

/-- Through a cursor that lies within its sequence, a function is called once, with what the cursor
shows. What it gives is then written as if it had been the payload, with the same tokens and the
same range, or is turned down with the same fault. A payload that is not called is written whatever
reading the cursor would come to. -/
theorem computed_payload_agrees_with_result (covers : w.Covers handle owner start stop)
    (host : Host) :
    (∃ current, w.perform host handle.read = (w, pure current) ∧
      ∀ f payload given, Payload.CallsFor f payload → host.transform f current = .ok given →
        given.isComputed = false → (∀ tokens, given ≠ .literal tokens) →
        let direct := w.perform host (handle.replace given)
        w.perform host (handle.replace payload) =
            (direct.1, ⟨direct.2.answer, .transformed current :: direct.2.events⟩) ∧
          (w.lexer owner).Cuts (Event.calls direct.2.events) ∧
          w.Rewrites owner start stop direct) ∧
    ∀ payload : Value, payload.isComputed = false → ∀ reading : Except Fault Value,
      w.plan host (handle.replace payload) = (do
        w.writeThrough handle (← w.resolve host owner reading payload)) := by
  refine ⟨?_, fun payload uncomputed => plan_replace_of_uncomputed covers.subject uncomputed⟩
  obtain ⟨current, reads, shows⟩ := covers.exists_held host
  refine ⟨current, shows, ?_⟩
  intro f payload given calls computes uncomputed unready direct
  refine ⟨?_, cuts_replace_of_uncomputed covers.subject uncomputed, rewrites_replace covers given⟩
  exact perform_replace_of_callsFor covers.subject reads calls computes uncomputed unready

/-- At an empty place the function gives items that can be read once, and for a run a number, which
cannot be written. -/
theorem computed_payload_agrees_with_result_at_gap :
    let host : Host := ⟨fun _ current => match current with
      | .null => .ok (.stream [.text "x", .null, .int 7])
      | _ => .ok (.int 3), fun _ _ => .ok⟩
    let w : Workspace := ⟨[⟨[some "a", none, some "b"], Lexer.standard⟩], [⟨.bool true, 0⟩],
      [⟨.int 0, .int 2, 0⟩]⟩
    let single := w.perform host (.ofItem 0 (.replace (.function 0)))
    let double := w.perform host (.ofRange 0 (.replace (.transform (.function 0))))
    single.1 = (w.perform host (.ofItem 0 (.replace (.stream [.text "x", .null, .int 7])))).1 ∧
      single.1.entries 0 = [some "a", some "x", some "7", some "b"] ∧
      Event.calls single.2.events = [.null] ∧
      double.2.answer = (w.perform host (.ofRange 0 (.replace (.int 3)))).2.answer ∧
      double.2.answer = .error (.unsupportedPayload "int") ∧
      Event.calls double.2.events = [.list [.text "a", .null]] := by
  intro host w single double
  have place : w.Covers (.item 0) 0 1 2 := @Covers.item w 0 ⟨.bool true, 0⟩ 1 rfl rfl (by decide)
  have run : w.Covers (.range 0) 0 0 2 :=
    @Covers.range w 0 ⟨.int 0, .int 2, 0⟩ 0 2 rfl rfl rfl (by decide) (by decide)
  obtain ⟨⟨current, shows, agrees⟩, -⟩ := computed_payload_agrees_with_result place host
  obtain ⟨⟨current', shows', agrees'⟩, -⟩ := computed_payload_agrees_with_result run host
  obtain rfl : current = .null := by cases shows; rfl
  obtain rfl : current' = .list [.text "a", .null] := by cases shows'; rfl
  obtain ⟨one, -⟩ := agrees 0 _ _ .function rfl rfl (by rintro _ ⟨⟩)
  obtain ⟨two, -⟩ := agrees' 0 _ _ .transform rfl rfl (by rintro _ ⟨⟩)
  have same := congrArg Prod.fst one
  have refused := congrArg (·.2.answer) two
  exact ⟨same, rfl, rfl, refused, rfl, rfl⟩

end Performing

end Workspace

end TokenEditor
