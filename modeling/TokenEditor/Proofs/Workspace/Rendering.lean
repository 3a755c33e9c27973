import Mathlib.Data.List.Basic
import TokenEditor.Proofs.Operator.Regrouping
import TokenEditor.Proofs.Piece.Segmentation
import TokenEditor.Workspace.Perform

/-!
# Lexing a rendered sequence

A sequence that is lexed from a text is rendered as its tokens with spaces between them. Lexing what
was rendered gives the same tokens again.
-/

namespace TokenEditor

open Operator

namespace Lexer

theorem isOperator_standard : Lexer.standard.isOperator = isStock := by
  funext spelling
  simp only [Lexer.isOperator, Lexer.standard, List.any_map, Function.comp_def,
    Value.isSameMember_text, isStock, List.contains_eq_any_beq]

theorem tokens_standard (host : Host) (view : View) (text : String) :
    Lexer.standard.tokens host view (.text text) =
      ⟨.ok (fuse isStock (Piece.pieces text)),
        [.lexed (meetings isStock (Piece.pieces text))]⟩ := by
  have fuses : Lexer.standard.fuses.isTrue view = true := rfl
  rw [Lexer.tokens, pieces_standard, pure_bind, if_pos fuses, isOperator_standard]
  rfl

end Lexer

theorem Entries.render_map_some {tokens : List String} (written : ∀ token ∈ tokens, token ≠ "") :
    render (tokens.map some) = spaced tokens := by
  have kept : (tokens.map some).filterMap (fun entry => entry.filter (· ≠ "")) =
      tokens.filterMap some := by
    rw [List.filterMap_map]
    apply List.filterMap_congr
    intro token member
    simp [Option.filter, written token member]
  rw [render, kept, List.filterMap_some]

namespace Workspace

theorem perform_newSequence (w : Workspace) (host : Host) (text : String) :
    w.perform host (.newSequence (.text text) Settings.standard) =
      (w.addSequence ⟨(fuse isStock (Piece.pieces text)).map some, Lexer.standard⟩,
        ⟨.ok (.sequence w.sequences.length),
          [.lexed (meetings isStock (Piece.pieces text))]⟩) := by
  have lexer : Settings.standard.lexer w.view = .ok Lexer.standard := rfl
  have planned : w.plan host (.newSequence (.text text) Settings.standard) =
      ⟨.ok (.addSequence ⟨(fuse isStock (Piece.pieces text)).map some, Lexer.standard⟩),
        [.lexed (meetings isStock (Piece.pieces text))]⟩ := by
    simp [plan, newSequence, lexer, Lexer.tokens_standard]
    rfl
  simp [perform, planned, subject?, afterEvents, carryOut]

theorem perform_render (w : Workspace) (host : Host) (id : SequenceId) :
    w.perform host (.ofSequence id .render) =
      (w, ⟨.ok (.text (Entries.render (w.entries id))), []⟩) := rfl

@[simp] theorem length_addSequence (w : Workspace) (sequence : Sequence) :
    (w.addSequence sequence).sequences.length = w.sequences.length + 1 := by
  simp [addSequence]

theorem entries_addSequence (w : Workspace) (sequence : Sequence) (id : SequenceId) :
    (w.addSequence sequence).entries id =
      if id = w.sequences.length then sequence.entries else w.entries id := by
  simp only [entries, addSequence]
  rcases Nat.lt_trichotomy id w.sequences.length with before | same | after
  · rw [List.getElem?_append_left before, if_neg (Nat.ne_of_lt before)]
  · simp [same]
  · have missing : w.sequences[id]? = none := List.getElem?_eq_none (Nat.le_of_lt after)
    have beyond : (w.sequences ++ [sequence])[id]? = none := by
      apply List.getElem?_eq_none
      rw [List.length_append]
      exact after
    rw [missing, beyond, if_neg (Nat.ne_of_gt after)]

/-- Unless a text ends in a backslash, its tokens are lexed again from what its sequence is rendered
as, and a sequence of that has the same tokens. -/
theorem lexing_of_rendered (host : Host) (text : String)
    (steady : text.toList.getLast? ≠ some '\\') :
    ∃ tokens : List String,
      (∀ view : View,
        (Lexer.standard.tokens host view (.text text)).answer = .ok tokens ∧
        (Lexer.standard.tokens host view (.text (Entries.spaced tokens))).answer = .ok tokens) ∧
      ∀ w : Workspace,
        let original := w.sequences.length
        let copy := original + 1
        let lexed := w.perform host (.newSequence (.text text) Settings.standard)
        let rendered := lexed.1.perform host (.ofSequence original .render)
        let again := rendered.1.perform host
          (.newSequence (.text (Entries.spaced tokens)) Settings.standard)
        lexed.2.answer = .ok (.sequence original) ∧
        rendered.2.answer = .ok (.text (Entries.spaced tokens)) ∧
        again.2.answer = .ok (.sequence copy) ∧
        again.1.entries original = tokens.map some ∧
        again.1.entries copy = tokens.map some := by
  have again := fuse_pieces_spaced text steady
  have written : ∀ token ∈ fuse isStock (Piece.pieces text), token ≠ "" :=
    ne_empty_of_mem_fuse (ne_empty_of_mem_pieces text)
  refine ⟨fuse isStock (Piece.pieces text), fun view => ?_, fun w => ?_⟩
  · rw [Lexer.tokens_standard, Lexer.tokens_standard, again]
    exact ⟨rfl, rfl⟩
  · simp only [perform_newSequence, perform_render, entries_addSequence, length_addSequence, again]
    simp [Entries.render_map_some written]

theorem lexing_of_rendered_scattered :
    "@ @ NOT  IN('it''s', 1e +5)".toList.getLast? ≠ some '\\' ∧
    ∃ tokens, tokens = ["@@", "NOT IN", "(", "'it''s'", ",", "1e", "+", "5", ")"] ∧
      ∀ view : View,
        (Lexer.standard.tokens ⟨fun _ => .ok, fun _ _ => .ok⟩ view
          (.text (Entries.spaced tokens))).answer = .ok tokens := by
  have steady : "@ @ NOT  IN('it''s', 1e +5)".toList.getLast? ≠ some '\\' := by decide +kernel
  obtain ⟨tokens, lexes, -⟩ := lexing_of_rendered ⟨fun _ => .ok, fun _ _ => .ok⟩ _ steady
  have found := (lexes View.empty).1
  rw [Lexer.tokens_standard] at found
  have fused : fuse isStock (Piece.pieces "@ @ NOT  IN('it''s', 1e +5)") =
      ["@@", "NOT IN", "(", "'it''s'", ",", "1e", "+", "5", ")"] := by decide +kernel
  have same := Except.ok.inj found
  exact ⟨steady, tokens, same.symm.trans fused, fun view => (lexes view).2⟩

end Workspace

end TokenEditor
