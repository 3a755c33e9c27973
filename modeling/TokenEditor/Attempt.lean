import TokenEditor.Event
import TokenEditor.Fault

/-!
# Attempts

An attempt ends in an answer or a fault, and in either case has a list of the events on the way. One
attempt after another has the events of both, unless the first fails.
-/

namespace TokenEditor

structure Attempt (α : Type) where
  answer : Except Fault α
  events : List Event

namespace Attempt

variable {α β : Type}

protected def pure (a : α) : Attempt α := ⟨.ok a, []⟩

protected def bind (x : Attempt α) (f : α → Attempt β) : Attempt β :=
  match x.answer with
  | .ok a => ⟨(f a).answer, x.events ++ (f a).events⟩
  | .error fault => ⟨.error fault, x.events⟩

instance : Monad Attempt where
  pure := Attempt.pure
  bind := Attempt.bind

def fail (fault : Fault) : Attempt α := ⟨.error fault, []⟩

def note (event : Event) : Attempt Unit := ⟨.ok (), [event]⟩

/-- An attempt without events. -/
def ofExcept (answer : Except Fault α) : Attempt α := ⟨answer, []⟩

instance : MonadLift (Except Fault) Attempt := ⟨ofExcept⟩

@[simp] theorem liftM_ok (a : α) :
    (liftM (Except.ok a : Except Fault α) : Attempt α) = pure a := rfl

@[simp] theorem liftM_error (fault : Fault) :
    (liftM (Except.error fault : Except Fault α) : Attempt α) = fail fault := rfl

@[simp] theorem fail_answer (fault : Fault) : (fail fault : Attempt α).answer = .error fault := rfl

@[simp] theorem fail_events (fault : Fault) : (fail fault : Attempt α).events = [] := rfl

@[simp] theorem fail_bind (fault : Fault) (f : α → Attempt β) : fail fault >>= f = fail fault := rfl

@[simp] theorem note_answer (event : Event) : (note event).answer = .ok () := rfl

@[simp] theorem note_events (event : Event) : (note event).events = [event] := rfl

@[simp] theorem pure_answer (a : α) : (pure a : Attempt α).answer = .ok a := rfl

@[simp] theorem pure_events (a : α) : (pure a : Attempt α).events = [] := rfl

@[simp] theorem ok_bind (a : α) (events : List Event) (f : α → Attempt β) :
    (⟨.ok a, events⟩ : Attempt α) >>= f = ⟨(f a).answer, events ++ (f a).events⟩ := rfl

@[simp] theorem error_bind (fault : Fault) (events : List Event) (f : α → Attempt β) :
    (⟨.error fault, events⟩ : Attempt α) >>= f = ⟨.error fault, events⟩ := rfl

instance : LawfulMonad Attempt := LawfulMonad.mk' Attempt
  (by
    rintro α ⟨answer, events⟩
    cases answer <;> simp [Functor.map, Attempt.bind, Attempt.pure])
  (by
    intro α β a f
    simp [Bind.bind, Pure.pure, Attempt.bind, Attempt.pure])
  (by
    rintro α β γ ⟨answer, events⟩ f g
    cases answer with
    | error fault => rfl
    | ok a =>
      simp only [ok_bind]
      cases answer : (f a).answer <;> simp [Bind.bind, Attempt.bind, answer])

end Attempt

end TokenEditor
