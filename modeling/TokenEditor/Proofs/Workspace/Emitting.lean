import TokenEditor.Proofs.Growth
import TokenEditor.Proofs.Lexing
import TokenEditor.Proofs.Workspace.Offer

/-!
# Events on the way of a plan

While a request is planned, the host may be asked to judge entries or to compute tokens, and a text
may be lexed, with a lexer that depends on the request. Nothing else happens before the change that
is planned gets carried out.
-/

namespace TokenEditor

def Request.lexes : Request → Bool
  | .ofSequence _ (.lex _) => true
  | .ofItem _ (.replace _) | .ofItem _ (.insertBefore _) | .ofItem _ (.insertAfter _) => true
  | .ofRange _ (.replace _) => true
  | _ => false

namespace Payload

variable {allowed : Event → Prop} {host : Host} {lexer : Lexer} {view : View}
  (lexed : ∀ value, (lexer.tokens host view value).Only allowed)

include lexed

theorem only_listed (value : Value) : (listed host lexer view value).Only allowed := by
  unfold listed
  split
  case h_1 => exact Attempt.only_pure _
  case h_2 => exact (lexed _).bind fun tokens => Attempt.only_pure _
  case h_3 => split <;> exact Attempt.only_of_events_eq_nil rfl

theorem only_ofValue (value : Value) : (ofValue host lexer view value).Only allowed := by
  cases value with
  | literal tokens => exact Attempt.only_pure _
  | transform callable => exact Attempt.only_pure _
  | function id => exact Attempt.only_pure _
  | predicate id => exact Attempt.only_pure _
  | _ => exact (only_listed lexed _).bind fun tokens => Attempt.only_pure _

theorem only_tokens (transformed : ∀ argument, allowed (.transformed argument))
    (current : Except Fault Value) (payload : Payload) :
    (payload.tokens host lexer view current).Only allowed := by
  cases payload with
  | fixed tokens => exact Attempt.only_pure _
  | computed callable =>
    exact (Attempt.only_liftM _).bind fun argument =>
      (host.only_call transformed callable argument).bind fun result => only_listed lexed result

end Payload

namespace Workspace

/-- The lexers that a request may use: that of the sequence which it is about, or the one that is
made for a new sequence. -/
inductive Employs (w : Workspace) : Request → Lexer → Prop
  | held {request : Request} {owner : SequenceId} :
      w.subject? request = some owner → request.lexes = true → Employs w request (w.lexer owner)
  | made {source : Value} {settings : Settings} {lexer : Lexer} :
      settings.lexer w.view = .ok lexer → Employs w (.newSequence source settings) lexer

section Planning

variable {w : Workspace} {host : Host} {allowed : Event → Prop}
  (judged : ∀ entry index, allowed (.judged entry index))
  (transformed : ∀ argument, allowed (.transformed argument))

section Judging

include judged

theorem only_run (owner : SequenceId) (start step criterion : Value) :
    (w.run host owner start step criterion).Only allowed :=
  (Growth.only_select judged host w.view _ start step criterion start).bind fun _ =>
    Attempt.only_pure _

theorem only_selectFrom (cursor : ItemCursor) (distance step : Int) (criterion : Value) :
    (w.selectFrom host cursor distance step criterion).Only allowed := by
  rw [selectFrom_eq_away]
  exact (Attempt.only_liftM _).bind fun index =>
    (only_run judged cursor.owner index _ criterion).bind fun _ => Attempt.only_pure _

end Judging

section Lexing

variable {owner : SequenceId}
  (lexed : ∀ value, ((w.lexer owner).tokens host w.view value).Only allowed)

include lexed

theorem only_insertion (run : Value) : (w.insertion host owner run).Only allowed := by
  have counted (items : List Value) : (if items.isEmpty then Attempt.fail .nothingToInsert
      else pure (Value.list items) : Attempt Value).Only allowed := by
    split <;> exact Attempt.only_of_events_eq_nil rfl
  cases run with
  | null => exact counted []
  | text s => exact (lexed _).bind fun tokens => counted (tokens.map .text)
  | _ => exact (Attempt.only_liftM _).bind counted

include transformed

theorem only_resolve (current : Except Fault Value) (payload : Value) :
    (w.resolve host owner current payload).Only allowed :=
  (Payload.only_ofValue lexed payload).bind fun payload =>
    (Payload.only_tokens lexed transformed current payload).bind fun _ => Attempt.only_pure _

end Lexing

include judged

theorem only_planSequence {owner : SequenceId} {request : SequenceRequest}
    (lexed : (Request.ofSequence owner request).lexes = true →
      ∀ value, ((w.lexer owner).tokens host w.view value).Only allowed) :
    (w.planSequence host owner request).Only allowed := by
  cases request with
  | lex text =>
    exact ((lexed rfl text).bind fun tokens => Attempt.only_pure _).bind fun _ =>
      Attempt.only_pure _
  | select start step criterion =>
    exact (only_run judged owner start step criterion).bind fun _ => Attempt.only_pure _
  | entry index => exact (Attempt.only_liftM _).bind fun _ => Attempt.only_pure _
  | slice start stop step => exact (Attempt.only_liftM _).bind fun _ => Attempt.only_pure _
  | _ => exact Attempt.only_of_events_eq_nil rfl

include transformed

theorem only_planItem {id : ItemId} {cursor : ItemCursor} {request : ItemRequest}
    (lexed : (Request.ofItem id request).lexes = true →
      ∀ value, ((w.lexer cursor.owner).tokens host w.view value).Only allowed) :
    (w.planItem host id cursor request).Only allowed := by
  cases request with
  | replace payload =>
    exact (only_resolve transformed (lexed rfl) _ payload).bind fun _ => Attempt.only_liftM _
  | insertBefore run =>
    rw [planItem, insertFrom_eq_away]
    exact (Attempt.only_liftM _).bind fun index =>
      (only_insertion (lexed rfl) run).bind fun items => Attempt.only_liftM _
  | insertAfter run =>
    rw [planItem, insertFrom_eq_away]
    exact (Attempt.only_liftM _).bind fun index =>
      (only_insertion (lexed rfl) run).bind fun items => Attempt.only_liftM _
  | next wanted caseSensitive =>
    cases wanted with
    | null => exact (Attempt.only_liftM _).bind fun _ => Attempt.only_pure _
    | _ => exact (Attempt.only_liftM _).bind fun _ => Attempt.only_liftM _
  | token => exact (Attempt.only_liftM _).bind fun _ => Attempt.only_pure _
  | peek count => exact (Attempt.only_liftM _).bind fun _ => Attempt.only_pure _
  | select criterion => exact only_selectFrom judged cursor _ _ criterion
  | selectPrevious criterion => exact only_selectFrom judged cursor _ _ criterion
  | selectNext criterion => exact only_selectFrom judged cursor _ _ criterion
  | _ => exact Attempt.only_of_events_eq_nil rfl

theorem only_planRange {id : RangeId} {cursor : RangeCursor} {request : RangeRequest}
    (lexed : (Request.ofRange id request).lexes = true →
      ∀ value, ((w.lexer cursor.owner).tokens host w.view value).Only allowed) :
    (w.planRange host id cursor request).Only allowed := by
  cases request with
  | replace payload =>
    exact (only_resolve transformed (lexed rfl) _ payload).bind fun _ => Attempt.only_liftM _
  | length => exact (Attempt.only_liftM _).bind fun _ => Attempt.only_pure _
  | entries => exact (Attempt.only_liftM _).bind fun _ => Attempt.only_pure _
  | extendLeft criterion =>
    exact (only_run judged cursor.owner _ _ criterion).bind fun _ => Attempt.only_pure _
  | extendRight criterion =>
    exact (only_run judged cursor.owner _ _ criterion).bind fun _ => Attempt.only_pure _
  | _ => exact Attempt.only_of_events_eq_nil rfl

omit judged transformed in
theorem only_newSequence {source : Value} {settings : Settings}
    (lexed : ∀ lexer, settings.lexer w.view = .ok lexer →
      ∀ value, (lexer.tokens host w.view value).Only allowed) :
    (w.newSequence host source settings).Only allowed := by
  refine (Attempt.only_liftM _).bind_of_ok fun lexer made => ?_
  split
  case h_1 => exact (lexed lexer made _).bind fun tokens => Attempt.only_pure _
  case h_2 => exact (Attempt.only_liftM _).bind fun items => Attempt.only_pure _

/-- Nothing happens on the way of a plan but that the host is asked and that a text is lexed with a
lexer which the request may use. -/
theorem only_plan {request : Request}
    (lexed : ∀ lexer, w.Employs request lexer →
      ∀ value, (lexer.tokens host w.view value).Only allowed) :
    (w.plan host request).Only allowed := by
  cases request with
  | newSequence source settings => exact only_newSequence fun lexer made => lexed lexer (.made made)
  | newItem owner index => exact Attempt.only_pure _
  | newRange owner start stop => exact Attempt.only_liftM _
  | ofSequence owner request =>
    exact only_planSequence judged fun lexes => lexed _ (.held rfl lexes)
  | ofItem id request =>
    rw [plan]
    cases found : w.items[id]? with
    | none => exact Attempt.only_fail _
    | some cursor =>
      have subject : w.subject? (.ofItem id request) = some cursor.owner := by
        rw [subject?, found, Option.map_some]
      exact only_planItem judged transformed fun lexes => lexed _ (.held subject lexes)
  | ofRange id request =>
    rw [plan]
    cases found : w.ranges[id]? with
    | none => exact Attempt.only_fail _
    | some cursor =>
      have subject : w.subject? (.ofRange id request) = some cursor.owner := by
        rw [subject?, found, Option.map_some]
      exact only_planRange judged transformed fun lexes => lexed _ (.held subject lexes)
  | _ => exact Attempt.only_pure _

end Planning

/-- A request about a sequence does not lex, unless it is one of those that may. -/
theorem silent_plan {w : Workspace} {host : Host} {request : Request} {owner : SequenceId}
    (subject : w.subject? request = some owner) (unlexed : request.lexes = false) :
    (w.plan host request).Silent := by
  refine (only_plan (fun _ _ => rfl) (fun _ => rfl) fun lexer employs => ?_).silent
  cases employs with
  | held _ lexes => exact absurd (unlexed.symm.trans lexes) Bool.false_ne_true
  | made => cases subject

end Workspace

end TokenEditor
