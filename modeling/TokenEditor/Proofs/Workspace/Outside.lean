import TokenEditor.Proofs.Workspace.Effects

/-!
# Cursors outside their sequence

A cursor may point anywhere. An edit through one whose index lies outside its sequence is turned
away and changes nothing, with one exception: one place before the first, the point behind the
cursor is the beginning of the sequence, where tokens can be inserted.
-/

namespace TokenEditor

namespace Workspace

section Checks

variable {w : Workspace} {index : Value} {i : Int}

end Checks

section Editing

variable {w : Workspace} {host : Host} {cursor : ItemCursor} {i : Int}

end Editing

/-- A request that is turned away as stale; all that may have changed is a lexer that was used. -/
def TurnedAway (w : Workspace) (done : Workspace × Attempt Value) : Prop :=
  SameContent w done.1 ∧ ∃ fault, done.2.answer = .error fault ∧ fault.kind = .staleCursor

section Performing

variable {w : Workspace} {host : Host} {request : Request}

theorem turnedAway_of_plan
    (stale : ∃ fault, (w.plan host request).answer = .error fault ∧ fault.kind = .staleCursor) :
    TurnedAway w (w.perform host request) := by
  obtain ⟨fault, fails, kind⟩ := stale
  obtain ⟨answer, same⟩ := perform_of_error fails
  exact ⟨same, fault, answer, kind⟩

end Performing

end Workspace

end TokenEditor
