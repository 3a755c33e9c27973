import TokenEditor.Attempt

/-!
# Attempts that go well, and what happens on the way

What has come to an answer has done so at each of its steps, and what happens on the way happens at
one of them.
-/

namespace TokenEditor

variable {α β : Type}

theorem bind_eq_ok {x : Except Fault α} {f : α → Except Fault β} {b : β} :
    x >>= f = .ok b ↔ ∃ a, x = .ok a ∧ f a = .ok b := by
  cases x with
  | ok a => simp [Bind.bind, Except.bind]
  | error fault => simp [Bind.bind, Except.bind]

theorem map_eq_ok {x : Except Fault α} {f : α → β} {b : β} :
    f <$> x = .ok b ↔ ∃ a, x = .ok a ∧ f a = b := by
  cases x with
  | ok a => simp [Functor.map, Except.map]
  | error fault => simp [Functor.map, Except.map]

namespace Attempt

theorem answer_bind_eq_ok {x : Attempt α} {f : α → Attempt β} {b : β} :
    (x >>= f).answer = .ok b ↔ ∃ a, x.answer = .ok a ∧ (f a).answer = .ok b := by
  obtain ⟨answer, events⟩ := x
  cases answer with
  | ok a => simp
  | error fault => simp

theorem answer_bind_of_ok {x : Attempt α} {a : α} (found : x.answer = .ok a) (f : α → Attempt β) :
    (x >>= f).answer = (f a).answer := by
  obtain ⟨answer, events⟩ := x
  cases found
  rfl

theorem answer_bind_of_error {x : Attempt α} {fault : Fault} (fails : x.answer = .error fault)
    (f : α → Attempt β) : (x >>= f).answer = .error fault := by
  obtain ⟨answer, events⟩ := x
  cases fails
  rfl

theorem bind_congr_of_ok {x : Attempt α} {f g : α → Attempt β}
    (same : ∀ a, x.answer = .ok a → f a = g a) : x >>= f = x >>= g := by
  obtain ⟨answer, events⟩ := x
  cases answer with
  | ok a => rw [ok_bind, ok_bind, same a rfl]
  | error fault => rfl

@[simp] theorem map_answer (f : α → β) (x : Attempt α) :
    (f <$> x).answer = f <$> x.answer := by
  obtain ⟨answer, events⟩ := x
  cases answer <;> rfl

@[simp] theorem map_events (f : α → β) (x : Attempt α) :
    (f <$> x).events = x.events := by
  obtain ⟨answer, events⟩ := x
  cases answer with
  | ok a => exact List.append_nil events
  | error fault => rfl

/-- Nothing happens on the way but what is allowed. -/
def Only (allowed : Event → Prop) (x : Attempt α) : Prop := ∀ event ∈ x.events, allowed event

section Only

variable {allowed : Event → Prop}

theorem only_of_events_eq_nil {x : Attempt α} (none : x.events = []) : x.Only allowed := by
  intro event member
  rw [none] at member
  cases member

theorem only_pure (a : α) : (pure a : Attempt α).Only allowed := only_of_events_eq_nil rfl

theorem only_fail (fault : Fault) : (fail fault : Attempt α).Only allowed :=
  only_of_events_eq_nil rfl

theorem only_liftM (answer : Except Fault α) : (liftM answer : Attempt α).Only allowed :=
  only_of_events_eq_nil rfl

theorem Only.bind_of_ok {x : Attempt α} {f : α → Attempt β} (first : x.Only allowed)
    (rest : ∀ a, x.answer = .ok a → (f a).Only allowed) : (x >>= f).Only allowed := by
  obtain ⟨answer, events⟩ := x
  cases answer with
  | ok a => exact List.forall_mem_append.mpr ⟨first, rest a rfl⟩
  | error fault => exact first

theorem Only.bind {x : Attempt α} {f : α → Attempt β} (first : x.Only allowed)
    (rest : ∀ a, (f a).Only allowed) : (x >>= f).Only allowed :=
  first.bind_of_ok fun a _ => rest a

end Only

def Silent (x : Attempt α) : Prop := x.events.any Event.isLexing = false

theorem Only.silent {x : Attempt α} (unlexed : x.Only fun event => event.isLexing = false) :
    x.Silent := by
  rw [Silent, List.any_eq_false]
  intro event member
  rw [unlexed event member]
  exact Bool.false_ne_true

theorem silent_pure (a : α) : (pure a : Attempt α).Silent := rfl

theorem Silent.bind {x : Attempt α} {f : α → Attempt β} (first : x.Silent)
    (rest : ∀ a, (f a).Silent) : (x >>= f).Silent := by
  obtain ⟨answer, events⟩ := x
  cases answer with
  | ok a =>
    rw [ok_bind, Silent, List.any_append, rest a, Bool.or_false]
    exact first
  | error fault => exact first

end Attempt

end TokenEditor
