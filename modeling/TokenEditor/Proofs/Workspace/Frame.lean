import Mathlib.Logic.Function.Iterate
import TokenEditor.Proofs.Value.Literal
import TokenEditor.Proofs.Workspace.Atomicity
import TokenEditor.Proofs.Workspace.Calls
import TokenEditor.Proofs.Workspace.Emitting
import TokenEditor.Session

/-!
# What requests leave alone

Names may stand for the same cursor, and cursors for the same sequence. A request touches no more
than its target all the same: an edit the entries of one sequence, a step forward the index of one
cursor, and any other request nothing at all that was there before.
-/

namespace TokenEditor

namespace Request

def edits : Request → Bool
  | .ofSequence _ (.replaceRange ..) | .ofSequence _ (.replaceAt ..) => true
  | .ofSequence _ (.insertAt ..) => true
  | .ofItem _ (.replace _) | .ofItem _ (.insertBefore _) | .ofItem _ (.insertAfter _) => true
  | .ofRange _ (.replace _) => true
  | _ => false

def replaces : Request → Bool
  | .ofItem _ (.replace _) | .ofRange _ (.replace _) => true
  | _ => false

def advanced? : Request → Option ItemId
  | .ofItem id (.next .null _) => some id
  | _ => none

end Request

namespace ItemCursor

def advanced (cursor : ItemCursor) : ItemCursor :=
  match cursor.index.shift 1 with
  | .ok index => { cursor with index }
  | .error _ => cursor

theorem advanced_of_whole? {cursor : ItemCursor} {i : Int}
    (counts : cursor.index.whole? = some i) :
    cursor.advanced = { cursor with index := .int (i + 1) } := by
  rw [advanced, Value.shift_of_whole? counts]

theorem iterate_advanced {cursor : ItemCursor} {i : Int} (counts : cursor.index.whole? = some i)
    (steps : Nat) : (advanced^[steps] cursor).index.whole? = some (i + steps) := by
  induction steps generalizing cursor i with
  | zero => simpa using counts
  | succ steps ih =>
    rw [Function.iterate_succ_apply, advanced_of_whole? counts, ih (Value.whole?_int (i + 1))]
    congr 1
    omega

end ItemCursor

namespace Workspace

variable {w : Workspace} {host : Host} {request : Request}

theorem items_carryOut {change : Change}
    (kept : ∀ id cursor answer, change ≠ .setItem id cursor answer) :
    w.items <+: (w.carryOut change).workspace.items := by
  cases change with
  | addItem cursor => exact List.prefix_append _ _
  | setItem id cursor answer => exact absurd rfl (kept id cursor answer)
  | _ => exact List.prefix_rfl

theorem ranges_carryOut {change : Change}
    (kept : ∀ id cursor answer, change ≠ .setRange id cursor answer) :
    w.ranges <+: (w.carryOut change).workspace.ranges := by
  cases change with
  | addRange cursor => exact List.prefix_append _ _
  | splice edit => exact List.prefix_append _ _
  | setRange id cursor answer => exact absurd rfl (kept id cursor answer)
  | _ => exact List.prefix_rfl

theorem Planned.assigns_of_setRange {id : RangeId} {cursor : RangeCursor} {answer : Value}
    (planned : Planned w host request (.setRange id cursor answer)) : request.assigns = true := by
  cases planned with
  | rangeAssigned assigns => exact assigns

theorem Planned.advances_of_setItem {id : ItemId} {cursor : ItemCursor} {answer : Value}
    (planned : Planned w host request (.setItem id cursor answer)) :
    request.assigns = true ∨ request.advanced? = some id := by
  cases planned with
  | advanced => exact .inr rfl
  | itemAssigned assigns => exact .inl assigns

theorem ranges_perform (unassigning : request.assigns = false) :
    w.ranges <+: (w.perform host request).1.ranges := by
  have same := sameContent_afterEvents w (w.subject? request) (w.plan host request).events
  cases plans : (w.plan host request).answer with
  | error fault => exact (perform_of_error plans).2.ranges ▸ List.prefix_rfl
  | ok change =>
    rw [(perform_of_ok plans).1, ← same.ranges]
    apply ranges_carryOut
    rintro id cursor answer rfl
    simp [(planned_of_plan plans).assigns_of_setRange] at unassigning

theorem items_perform (unassigning : request.assigns = false)
    (standing : request.advanced? = none) : w.items <+: (w.perform host request).1.items := by
  have same := sameContent_afterEvents w (w.subject? request) (w.plan host request).events
  cases plans : (w.plan host request).answer with
  | error fault => exact (perform_of_error plans).2.items ▸ List.prefix_rfl
  | ok change =>
    rw [(perform_of_ok plans).1, ← same.items]
    apply items_carryOut
    rintro id cursor answer rfl
    rcases (planned_of_plan plans).advances_of_setItem with assigns | advances
    · simp [assigns] at unassigning
    · simp [advances] at standing

theorem items_perform_next (w : Workspace) (host : Host) (id : ItemId) (caseSensitive : Value) :
    (w.perform host (.ofItem id (.next .null caseSensitive))).1.items =
      w.items.modify id ItemCursor.advanced := by
  rw [← Course.ofRequest_eq_perform, Course.ofRequest, Course.here_bind]
  cases found : w.items[id]? with
  | none => exact (List.modify_eq_self (List.getElem?_eq_none_iff.mp found)).symm
  | some cursor =>
    have moved : w.items.modify id ItemCursor.advanced = w.items.set id cursor.advanced := by
      rw [List.modify_eq_set_getElem?, found]
      rfl
    rw [moved, ItemCursor.advanced]
    cases shifted : cursor.index.shift 1 with
    | ok index =>
      simp only [Course.ofItem, Course.advance, shifted]
      rfl
    | error fault =>
      simp only [Course.ofItem, Course.advance, shifted]
      obtain ⟨inside, rfl⟩ := List.getElem?_eq_some_iff.mp found
      exact (List.set_getElem_self inside).symm

section Sequences

variable {id : SequenceId}

theorem lexer_setEntries (w : Workspace) (owner id : SequenceId) (entries : List Entry) :
    (w.setEntries owner entries).lexer id = w.lexer id := by
  simp only [lexer, setEntries, List.getElem?_modify]
  cases w.sequences[id]? with
  | none => rfl
  | some sequence => by_cases same : owner = id <;> simp [same]

theorem lexer_useLexer_of_ne {owner : SequenceId} (apart : owner ≠ id) :
    (w.useLexer owner).lexer id = w.lexer id := by
  simp only [lexer, useLexer, List.getElem?_modify, if_neg apart]
  cases w.sequences[id]? <;> rfl

theorem lexer_afterEvents {subject : Option SequenceId} {events : List Event}
    (unused : events.any Event.isLexing = true → subject ≠ some id) :
    (w.afterEvents subject events).lexer id = w.lexer id := by
  unfold afterEvents
  split
  case h_1 owner =>
    split
    case isTrue lexed =>
      exact lexer_useLexer_of_ne fun same => unused lexed (congrArg some same)
    case isFalse => rfl
  case h_2 => rfl

theorem lexer_carryOut (held : id < w.sequences.length) (change : Change) :
    (w.carryOut change).workspace.lexer id = w.lexer id := by
  cases change with
  | addSequence sequence =>
    simp only [lexer, carryOut, addSequence, List.getElem?_append_left held]
  | splice edit => exact w.lexer_setEntries edit.owner id _
  | _ => rfl

theorem lexer_perform (held : id < w.sequences.length)
    (unused : (w.plan host request).events.any Event.isLexing = true →
      w.subject? request ≠ some id) :
    (w.perform host request).1.lexer id = w.lexer id := by
  have same := sameContent_afterEvents w (w.subject? request) (w.plan host request).events
  have ready : (w.afterEvents (w.subject? request) (w.plan host request).events).lexer id =
      w.lexer id := lexer_afterEvents unused
  rw [perform_eq_finish, finish]
  cases (w.plan host request).answer with
  | error fault => exact ready
  | ok change => exact (lexer_carryOut (same.sequences.symm ▸ held) change).trans ready

theorem edits_of_offer? {offering : Attempt Offer}
    (offers : w.offer? host request = some offering) : request.edits = true := by
  unfold offer? at offers
  split at offers
  case h_8 => cases offers
  all_goals rfl

theorem entries_perform (held : id < w.sequences.length)
    (apart : request.edits = true → w.subject? request ≠ some id) :
    (w.perform host request).1.entries id = w.entries id := by
  by_cases splices : ∃ edit, (w.plan host request).answer = .ok (.splice edit)
  case pos =>
    obtain ⟨edit, plans⟩ := splices
    obtain ⟨offer, events, offers, accepts⟩ := exists_offer_of_splice plans
    have target : edit.owner ≠ id := by
      rintro rfl
      apply apart (edits_of_offer? offers)
      rw [subject?_of_offer? offers, (fits_of_accept accepts).target]
    rw [entries_perform_of_splice plans held, if_neg target]
  case neg => exact entries_perform_of_spares (fun edit plans => splices ⟨edit, plans⟩) held

end Sequences

/-- A function that replaces is given tokens only, and cannot reach a sequence or a cursor. -/
theorem isLiteral_of_replaces (replaces : request.replaces = true) {argument : Value}
    (called : argument ∈ Event.calls (w.perform host request).2.events) :
    argument.isLiteral = true := by
  rw [calls_perform] at called
  unfold Request.replaces at replaces
  split at replaces
  case h_1 id payload =>
    rw [plan] at called
    cases found : w.items[id]? with
    | none =>
      rw [found] at called
      cases called
    | some cursor =>
      simp only [found, planItem, replaceItem] at called
      rw [Attempt.calls_bind fun _ => rfl] at called
      apply isLiteral_of_mem_calls_resolve (fun current read => ?_) called
      obtain ⟨entry, -, rfl⟩ := map_eq_ok.mp read
      exact Value.isLiteral_ofEntry entry
  case h_2 id payload =>
    rw [plan] at called
    cases found : w.ranges[id]? with
    | none =>
      rw [found] at called
      cases called
    | some cursor =>
      simp only [found, planRange, replaceRun] at called
      rw [Attempt.calls_bind fun _ => rfl] at called
      apply isLiteral_of_mem_calls_resolve (fun current read => ?_) called
      obtain ⟨entries, -, rfl⟩ := map_eq_ok.mp read
      exact Value.isLiteral_ofEntries entries
  case h_3 => cases replaces

/-- A request that assigns nothing has been framed if all else that the workspace held is still
there: the entries of other sequences than the one that it edits, lexers that it does not use,
every range, and every item cursor but the one that it moves on by one place. -/
structure Framed (w : Workspace) (request : Request) (after : Workspace) : Prop where
  sequences : w.sequences.length ≤ after.sequences.length
  entries : ∀ id < w.sequences.length, (request.edits = true → w.subject? request ≠ some id) →
    after.entries id = w.entries id
  lexers : ∀ id < w.sequences.length, (request.lexes = true → w.subject? request ≠ some id) →
    after.lexer id = w.lexer id
  items : ∀ id cursor, w.items[id]? = some cursor → after.items[id]? =
    some (if request.advanced? = some id then cursor.advanced else cursor)
  ranges : w.ranges <+: after.ranges

theorem getElem?_items_perform (unassigning : request.assigns = false) {id : ItemId}
    {cursor : ItemCursor} (found : w.items[id]? = some cursor) :
    (w.perform host request).1.items[id]? =
      some (if request.advanced? = some id then cursor.advanced else cursor) := by
  cases advances : request.advanced? with
  | none =>
    have kept : w.items <+: (w.perform host request).1.items :=
      items_perform unassigning advances
    obtain ⟨more, appended⟩ := kept
    obtain ⟨inside, -⟩ := List.getElem?_eq_some_iff.mp found
    rw [← appended, List.getElem?_append_left inside, found]
    rfl
  | some moved =>
    unfold Request.advanced? at advances
    split at advances
    case h_1 other caseSensitive =>
      obtain rfl := Option.some.inj advances
      rw [items_perform_next, List.getElem?_modify, found]
      by_cases same : other = id <;> simp [same]
    case h_2 => cases advances

theorem framed_perform (unassigning : request.assigns = false) :
    Framed w request (w.perform host request).1 where
  sequences := length_sequences_perform w host request
  entries _ held apart := entries_perform held apart
  lexers id held apart := by
    apply lexer_perform held
    intro lexed subject
    cases lexes : request.lexes with
    | true => exact apart lexes subject
    | false => exact absurd ((silent_plan subject lexes).symm.trans lexed) Bool.false_ne_true
  items _ _ found := getElem?_items_perform unassigning found
  ranges := ranges_perform unassigning

theorem performAll_cons (w : Workspace) (host : Host) (request : Request)
    (requests : List Request) :
    w.performAll host (request :: requests) =
      (w.perform host request).1.performAll host requests :=
  rfl

theorem ranges_performAll {requests : List Request}
    (unassigning : ∀ request ∈ requests, request.assigns = false) :
    w.ranges <+: (w.performAll host requests).ranges := by
  induction requests generalizing w with
  | nil => exact List.prefix_rfl
  | cons request rest ih =>
    obtain ⟨first, others⟩ := List.forall_mem_cons.mp unassigning
    exact (ranges_perform first).trans (ih others)

theorem getElem?_items_performAll {requests : List Request}
    (unassigning : ∀ request ∈ requests, request.assigns = false) {id : ItemId}
    {cursor : ItemCursor} (found : w.items[id]? = some cursor) :
    (w.performAll host requests).items[id]? =
      some (ItemCursor.advanced^[requests.countP (·.advanced? = some id)] cursor) := by
  induction requests generalizing w cursor with
  | nil => exact found
  | cons request rest ih =>
    obtain ⟨first, others⟩ := List.forall_mem_cons.mp unassigning
    rw [performAll_cons, ih others (getElem?_items_perform first found), List.countP_cons]
    by_cases advances : request.advanced? = some id <;> simp [advances]

theorem exists_index_performAll {requests : List Request}
    (unassigning : ∀ request ∈ requests, request.assigns = false) {id : ItemId}
    {cursor : ItemCursor} {i : Int} (found : w.items[id]? = some cursor)
    (counts : cursor.index.whole? = some i) :
    ∃ after, (w.performAll host requests).items[id]? = some after ∧
      after.index.whole? = some (i + requests.countP (·.advanced? = some id)) :=
  ⟨_, getElem?_items_performAll unassigning found, ItemCursor.iterate_advanced counts _⟩

end Workspace

namespace Session

variable (session : Session) (host : Host) (request : Request) (name : Option String)

theorem value_keep (kept : String) (value : Value) {other : String} (apart : kept ≠ other) :
    (session.keep kept value).value other = session.value other := by
  have differ : (other == kept) = false := beq_eq_false_iff_ne.mpr apart.symm
  simp only [Session.value, keep, List.lookup_cons, differ]

theorem perform_cases :
    let done := session.workspace.perform host request
    let after : Session := { session with workspace := done.1 }
    session.perform host request name = (after, done.2) ∨
      ∃ kept answer, name = some kept ∧
        session.perform host request name = (after.keep kept answer, done.2) := by
  unfold perform
  obtain ⟨workspace, attempt⟩ := session.workspace.perform host request
  dsimp only
  split
  case h_1 answer kept answered => exact .inr ⟨kept, answer, rfl, rfl⟩
  case h_2 => exact .inl rfl

/-- Whatever the names of a session stand for, a request that assigns nothing touches its target
alone, also where it is done step by step; the functions that are asked to replace see no more than
tokens, and no name but the one for the answer stands for anything else than before. -/
theorem request_touches_its_target_alone (unassigning : request.assigns = false) :
    let done := session.perform host request name
    Workspace.Framed session.workspace request done.1.workspace ∧
      Course.ofRequest host request session.workspace = (done.1.workspace, done.2) ∧
      (request.replaces = true →
        ∀ argument ∈ Event.calls done.2.events, argument.isLiteral = true) ∧
      done.1.notes = session.notes ∧
      ∀ other, name ≠ some other → done.1.value other = session.value other := by
  intro done
  have framed : Workspace.Framed session.workspace request
      (session.workspace.perform host request).1 := Workspace.framed_perform unassigning
  have course := Course.ofRequest_eq_perform host session.workspace request
  have seen (replaces : request.replaces = true) (argument : Value)
      (called : argument ∈ Event.calls (session.workspace.perform host request).2.events) :
      argument.isLiteral = true := Workspace.isLiteral_of_replaces replaces called
  rcases session.perform_cases host request name with plain | ⟨kept, answer, named, keeps⟩
  · rw [show done = _ from plain]
    exact ⟨framed, course, seen, rfl, fun _ _ => rfl⟩
  · rw [show done = _ from keeps]
    refine ⟨framed, course, seen, rfl, fun other apart => ?_⟩
    apply value_keep
    rintro rfl
    exact apart named

/-- Both names for an item cursor stand for the same one, and the function that replaces puts the
token that it is given in brackets; after that the cursor steps forward. -/
theorem request_touches_its_target_alone_under_two_names :
    let host : Host :=
      ⟨fun _ current => .ok (.list [.text "(", current, .text ")"]), fun _ _ => .ok⟩
    let session : Session :=
      ⟨⟨[⟨[some "a", some "b"], Lexer.standard⟩, ⟨[some "c"], Lexer.standard⟩],
        [⟨.int 0, 0⟩], [⟨.int 0, .int 2, 0⟩]⟩,
        [("x", .item 0), ("y", .item 0)], []⟩
    let replacement : Request := .ofItem 0 (.replace (.function 0))
    let step : Request := .ofItem 0 (.next .null (.bool false))
    let replaced := (session.perform host replacement none).1
    let stepped := (replaced.perform host step none).1
    replacement.assigns = false ∧ step.assigns = false ∧
      Workspace.Framed session.workspace replacement replaced.workspace ∧
      Workspace.Framed replaced.workspace step stepped.workspace ∧
      stepped.workspace.entries 0 = [some "(", some "a", some ")", some "b"] ∧
      stepped.workspace.entries 1 = [some "c"] ∧
      stepped.workspace.items = [⟨.int 1, 0⟩] ∧
      stepped.value "x" = .item 0 ∧ stepped.value "y" = .item 0 := by
  intro host session replacement step replaced stepped
  have first := request_touches_its_target_alone session host replacement none rfl
  have second := request_touches_its_target_alone replaced host step none rfl
  refine ⟨rfl, rfl, first.1, second.1, rfl, rfl, rfl, ?_, ?_⟩
  · exact (second.2.2.2.2 "x" nofun).trans (first.2.2.2.2 "x" nofun)
  · exact (second.2.2.2.2 "y" nofun).trans (first.2.2.2.2 "y" nofun)

end Session

end TokenEditor
