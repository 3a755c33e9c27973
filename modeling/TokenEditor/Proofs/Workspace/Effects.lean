import TokenEditor.Proofs.Workspace.Planned
import TokenEditor.Proofs.Workspace.Rendering
import TokenEditor.Proofs.Workspace.SameContent

/-!
# What requests do to entries

A request changes the entries of a sequence only where it comes to a splice, and only those of the
sequence that the splice is for.
-/

namespace TokenEditor

namespace Workspace

section Performing

variable {w : Workspace} {host : Host} {request : Request}

theorem perform_of_error {fault : Fault} (fails : (w.plan host request).answer = .error fault) :
    (w.perform host request).2.answer = .error fault ∧
      SameContent w (w.perform host request).1 := by
  rw [perform_eq_finish, finish, fails]
  exact ⟨rfl, sameContent_afterEvents w _ _⟩

theorem perform_of_ok {change : Change} (plans : (w.plan host request).answer = .ok change) :
    let outcome := (w.afterEvents (w.subject? request) (w.plan host request).events).carryOut change
    (w.perform host request).1 = outcome.workspace ∧
      (w.perform host request).2.answer = .ok outcome.answer := by
  rw [perform_eq_finish, finish, plans]
  exact ⟨rfl, rfl⟩

theorem entries_carryOut {change : Change} (other : ∀ edit, change ≠ .splice edit)
    {id : SequenceId} (held : id < w.sequences.length) :
    (w.carryOut change).workspace.entries id = w.entries id := by
  cases change with
  | addSequence sequence =>
    exact (w.entries_addSequence sequence id).trans (if_neg (Nat.ne_of_lt held))
  | splice edit => exact absurd rfl (other edit)
  | _ => rfl

theorem length_sequences_carryOut (w : Workspace) (change : Change) :
    w.sequences.length ≤ (w.carryOut change).workspace.sequences.length := by
  cases change with
  | addSequence sequence => simp [carryOut]
  | splice edit => simp [carryOut, addRange, setEntries]
  | _ => exact Nat.le_refl _

theorem length_sequences_perform (w : Workspace) (host : Host) (request : Request) :
    w.sequences.length ≤ (w.perform host request).1.sequences.length := by
  have same := sameContent_afterEvents w (w.subject? request) (w.plan host request).events
  cases plans : (w.plan host request).answer with
  | error fault => exact Nat.le_of_eq (perform_of_error plans).2.sequences.symm
  | ok change =>
    rw [(perform_of_ok plans).1, ← same.sequences]
    exact length_sequences_carryOut _ change

theorem entries_perform_of_splice {edit : Edit}
    (plans : (w.plan host request).answer = .ok (.splice edit)) {id : SequenceId}
    (held : id < w.sequences.length) :
    (w.perform host request).1.entries id =
      if edit.owner = id then edit.result (w.entries edit.owner) else w.entries id := by
  have same := sameContent_afterEvents w (w.subject? request) (w.plan host request).events
  rw [(perform_of_ok plans).1]
  apply (entries_settle_splice edit id).trans
  simp only [same.sequences, same.entries, held, and_true]

theorem entries_perform_of_spares (spares : Spares (w.plan host request)) {id : SequenceId}
    (held : id < w.sequences.length) :
    (w.perform host request).1.entries id = w.entries id := by
  have same := sameContent_afterEvents w (w.subject? request) (w.plan host request).events
  cases plans : (w.plan host request).answer with
  | error fault => exact congrFun (perform_of_error plans).2.entries id
  | ok change =>
    rw [(perform_of_ok plans).1, ← same.entries]
    apply entries_carryOut fun edit splices => spares edit (splices ▸ plans)
    rw [same.sequences]
    exact held

theorem answer_perform_of_splice {edit : Edit}
    (plans : (w.plan host request).answer = .ok (.splice edit)) :
    (w.perform host request).2.answer = .ok (.range w.ranges.length) := by
  have same := sameContent_afterEvents w (w.subject? request) (w.plan host request).events
  rw [(perform_of_ok plans).2]
  simp only [carryOut, same.ranges]

theorem ranges_perform_of_splice {edit : Edit}
    (plans : (w.plan host request).answer = .ok (.splice edit)) :
    (w.perform host request).1.ranges = w.ranges ++ [edit.cursor] := by
  have same := sameContent_afterEvents w (w.subject? request) (w.plan host request).events
  rw [(perform_of_ok plans).1]
  simp only [carryOut, addRange, ranges_setEntries, same.ranges]

theorem answer_perform_of_nothing {answer : Value}
    (plans : (w.plan host request).answer = .ok (.nothing answer)) :
    (w.perform host request).2.answer = .ok answer :=
  (perform_of_ok plans).2

end Performing

def performAll (w : Workspace) (host : Host) (requests : List Request) : Workspace :=
  requests.foldl (fun w request => (w.perform host request).1) w

end Workspace

end TokenEditor
