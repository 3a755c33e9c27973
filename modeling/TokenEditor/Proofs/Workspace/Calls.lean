import TokenEditor.Proofs.Value.Literal
import TokenEditor.Proofs.Workspace.Effects

/-!
# Calls of the host

Where tokens are to be written, the host may be called for two reasons: to compute them from what
stands there, and to cut a text, if the lexer does so by calling. A payload that is a function is
called once, before anything is lexed.
-/

namespace TokenEditor

def Event.calls (events : List Event) : List Value := events.filterMap Event.call?

theorem Event.calls_append (events more : List Event) :
    Event.calls (events ++ more) = Event.calls events ++ Event.calls more :=
  List.filterMap_append

namespace Attempt

variable {α β : Type}

theorem calls_bind {x : Attempt α} {f : α → Attempt β}
    (uncalled : ∀ a, Event.calls (f a).events = []) :
    Event.calls (x >>= f).events = Event.calls x.events := by
  obtain ⟨answer, events⟩ := x
  cases answer with
  | error fault => rfl
  | ok a => rw [ok_bind, Event.calls_append, uncalled a, List.append_nil]

end Attempt

namespace Lexer

/-- What a lexer calls for one text at most: nothing, unless it cuts by calling. -/
inductive Cuts (lexer : Lexer) : List Value → Prop
  | none : Cuts lexer []
  | text {callable : Value} {s : String} :
      lexer.cutter = .calling callable → Cuts lexer [.text s]

theorem isLiteral_of_mem_cuts {lexer : Lexer} {cuts : List Value} (cut : lexer.Cuts cuts)
    {argument : Value} (member : argument ∈ cuts) : argument.isLiteral = true := by
  cases cut with
  | none => cases member
  | text cutter =>
    obtain rfl := List.mem_singleton.mp member
    rfl

variable {lexer : Lexer} (host : Host) (view : View)

theorem calls_tokens (value : Value) :
    Event.calls (lexer.tokens host view value).events =
      Event.calls (lexer.cutter.cut host view value).events := by
  have pieces : Event.calls (lexer.pieces host view value).events =
      Event.calls (lexer.cutter.cut host view value).events := by
    apply Attempt.calls_bind
    intro cut
    rfl
  rw [← pieces]
  apply Attempt.calls_bind
  intro found
  split <;> rfl

theorem cuts_tokens (s : String) :
    lexer.Cuts (Event.calls (lexer.tokens host view (.text s)).events) := by
  rw [calls_tokens]
  cases cutter : lexer.cutter with
  | calling callable =>
    have called : Event.calls (Cutter.cut host view (.text s) (.calling callable)).events =
        Event.calls (host.call callable (.text s)).events := by
      apply Attempt.calls_bind
      intro answer
      rfl
    rw [called]
    cases callable with
    | function id => exact .text cutter
    | _ => exact .none
  | _ => exact .none

end Lexer

namespace Payload

def handed (current : Value) : Value → List Value
  | .function _ => [current]
  | .transform (.function _) => [current]
  | _ => []

variable {lexer : Lexer} (host : Host) (view : View)

theorem cuts_listed (value : Value) :
    lexer.Cuts (Event.calls (listed host lexer view value).events) := by
  unfold listed
  split
  case h_1 => exact .none
  case h_2 s =>
    rw [Attempt.calls_bind fun _ => rfl]
    exact Lexer.cuts_tokens host view s
  case h_3 => split <;> exact .none

theorem cuts_ofValue (payload : Value) :
    lexer.Cuts (Event.calls (ofValue host lexer view payload).events) := by
  have fixed (value : Value) :
      lexer.Cuts (Event.calls (listed host lexer view value >>= fun tokens =>
        pure (Payload.fixed tokens)).events) := by
    rw [Attempt.calls_bind fun _ => rfl]
    exact cuts_listed host view value
  cases payload with
  | function id => exact .none
  | predicate id => exact .none
  | transform callable => exact .none
  | literal tokens => exact .none
  | _ => exact fixed _

/-- The calls made to settle a payload over `current`, and no others. -/
def Hands (lexer : Lexer) (current payload : Value) (events : List Event) : Prop :=
  ∃ cuts, lexer.Cuts cuts ∧ Event.calls events = handed current payload ++ cuts

theorem isLiteral_of_mem_handed {current payload argument : Value}
    (named : current.isLiteral = true) (member : argument ∈ handed current payload) :
    argument.isLiteral = true := by
  unfold handed at member
  split at member
  case h_1 => exact List.mem_singleton.mp member ▸ named
  case h_2 => exact List.mem_singleton.mp member ▸ named
  case h_3 => cases member

end Payload

namespace Workspace

section Resolving

variable {w : Workspace} {host : Host} {owner : SequenceId} {current payload : Value}

theorem calls_resolve (current : Except Fault Value) (payload : Value) :
    Event.calls (w.resolve host owner current payload).events =
      Event.calls (Payload.ofValue host (w.lexer owner) w.view payload >>=
        Payload.tokens host (w.lexer owner) w.view current).events := by
  rw [resolve, ← bind_assoc]
  apply Attempt.calls_bind
  intro tokens
  rfl

/-- What computes the tokens is called first, and what it gives is lexed if it is a text. -/
theorem hands_of_computed {callable : Value}
    (computed : Payload.ofValue host (w.lexer owner) w.view payload = pure (.computed callable))
    (called : Event.calls (host.call callable current).events = Payload.handed current payload) :
    Payload.Hands (w.lexer owner) current payload
      (w.resolve host owner (.ok current) payload).events := by
  rw [Payload.Hands, calls_resolve, computed, pure_bind, Payload.tokens, Attempt.liftM_ok,
    pure_bind, ← called]
  obtain ⟨answer, events⟩ := host.call callable current
  cases answer with
  | error fault => exact ⟨[], .none, (List.append_nil _).symm⟩
  | ok result =>
    refine ⟨_, Payload.cuts_listed host w.view result, ?_⟩
    rw [Attempt.ok_bind, Event.calls_append]

theorem hands_of_fixed
    (fixed : Payload.ofValue host (w.lexer owner) w.view payload =
      Payload.fixed <$> Payload.listed host (w.lexer owner) w.view payload)
    (uncalled : Payload.handed current payload = []) :
    Payload.Hands (w.lexer owner) current payload
      (w.resolve host owner (.ok current) payload).events := by
  refine ⟨_, Payload.cuts_listed host w.view payload, ?_⟩
  rw [calls_resolve, uncalled, fixed, map_eq_pure_bind, bind_assoc]
  apply Attempt.calls_bind
  intro tokens
  rfl

theorem hands_resolve (w : Workspace) (host : Host) (owner : SequenceId) (current payload : Value) :
    Payload.Hands (w.lexer owner) current payload
      (w.resolve host owner (.ok current) payload).events := by
  cases payload with
  | function id => exact hands_of_computed rfl rfl
  | predicate id => exact hands_of_computed rfl rfl
  | transform callable =>
    apply hands_of_computed rfl
    cases callable <;> rfl
  | literal tokens => exact ⟨[], .none, rfl⟩
  | _ => exact hands_of_fixed (bind_pure_comp ..) rfl

theorem calls_resolve_of_error (fault : Fault) :
    Event.calls (w.resolve host owner (.error fault) payload).events =
      Event.calls (Payload.ofValue host (w.lexer owner) w.view payload).events := by
  rw [calls_resolve]
  apply Attempt.calls_bind
  intro payload
  cases payload <;> rfl

theorem isLiteral_of_mem_calls_resolve {current : Except Fault Value} {argument : Value}
    (named : ∀ value, current = .ok value → value.isLiteral = true)
    (called : argument ∈ Event.calls (w.resolve host owner current payload).events) :
    argument.isLiteral = true := by
  cases current with
  | ok value =>
    obtain ⟨cuts, cut, calls⟩ := hands_resolve w host owner value payload
    rcases List.mem_append.mp (calls ▸ called) with given | cutting
    · exact Payload.isLiteral_of_mem_handed (named value rfl) given
    · exact Lexer.isLiteral_of_mem_cuts cut cutting
  | error fault =>
    rw [calls_resolve_of_error] at called
    exact Lexer.isLiteral_of_mem_cuts (Payload.cuts_ofValue host w.view payload) called

end Resolving

theorem calls_perform (w : Workspace) (host : Host) (request : Request) :
    Event.calls (w.perform host request).2.events = Event.calls (w.plan host request).events := by
  rw [perform_eq_finish, finish, Event.calls_append]
  cases (w.plan host request).answer with
  | error fault => exact List.append_nil _
  | ok change =>
    cases change <;> exact List.append_nil _

end Workspace

end TokenEditor
