import TokenEditor.Proofs.Workspace.Effects

/-!
# Tokens in place of themselves

Wherever a token was cut off, by itself it is lexed into just that token. So a sequence that was
lexed stays as it is where one of its tokens gives way to its own text, or to what a function makes
of it that gives its argument back.
-/

namespace TokenEditor

open Operator

theorem Entries.splice_self {entries : List Entry} {place : Nat} {token : String}
    (found : entries[place]? = some (some token)) :
    splice entries place (place + 1) [token] = entries := by
  obtain ⟨within, same⟩ := List.getElem?_eq_some_iff.mp found
  rw [splice, List.map_singleton, ← same, List.append_assoc, List.singleton_append,
    List.getElem_cons_drop within, List.take_append_drop]

/-- What comes to the token that it replaces: its own text, or a function that gives it back. -/
inductive Restores (host : Host) (token : String) : Value → Prop
  | text : Restores host token (.text token)
  | function {id : CallableId} :
      host.transform id (.text token) = .ok (.text token) → Restores host token (.function id)

namespace Workspace

/-- A sequence as it is when it was lexed into `tokens` in the standard way. -/
structure HoldsTokens (w : Workspace) (owner : SequenceId) (tokens : List String) : Prop where
  held : owner < w.sequences.length
  entries : w.entries owner = tokens.map some
  lexer : w.lexer owner = Lexer.standard

theorem holdsTokens_newSequence (w : Workspace) (host : Host) (text : String) :
    HoldsTokens (w.perform host (.newSequence (.text text) Settings.standard)).1
      w.sequences.length (fuse isStock (Piece.pieces text)) := by
  rw [perform_newSequence]
  constructor
  · rw [length_addSequence]
    exact Nat.lt_succ_self _
  · rw [entries_addSequence, if_pos rfl]
  · simp [Workspace.lexer, addSequence]

section Replacing

variable {w : Workspace} {host : Host} {owner : SequenceId} {token : String} {payload : Value}

theorem resolve_of_restores (restores : Restores host token payload)
    (lexer : w.lexer owner = Lexer.standard)
    (alone : fuse isStock (Piece.pieces token) = [token]) :
    (w.resolve host owner (.ok (.text token)) payload).answer = .ok (.list [.text token]) := by
  have lexed := Lexer.tokens_standard host w.view token
  rw [alone] at lexed
  rw [resolve, lexer]
  cases restores with
  | text => simp [Payload.ofValue, Payload.listed, Payload.tokens, lexed]
  | function gives =>
    simp [Payload.ofValue, Payload.listed, Payload.tokens, Host.call, gives, lexed]

theorem plan_replace_of_restores {tokens : List String} (holds : HoldsTokens w owner tokens)
    {id : ItemId} {i : Nat} (found : w.items[id]? = some ⟨.int i, owner⟩)
    (here : tokens[i]? = some token) (notEmpty : token ≠ "")
    (restores : Restores host token payload)
    (alone : fuse isStock (Piece.pieces token) = [token]) :
    (w.plan host (.ofItem id (.replace payload))).answer =
      .ok (.splice ⟨owner, .int i, i, i + 1, [token]⟩) := by
  have entry : (w.entries owner)[i]? = some (some token) := by
    rw [holds.entries, List.getElem?_map, here]
    rfl
  have within : 0 ≤ (i : Int) ∧ (i : Int) < (w.entries owner).length := by
    have inside := (List.getElem?_eq_some_iff.mp entry).1
    omega
  have current : w.token ⟨.int i, owner⟩ = .ok (some token) := by
    rw [Workspace.token, Value.place?_of_whole? (Value.whole?_int i), if_pos within]
    simp only [bind, Except.bind, Int.toNat_natCast, entry]
    rfl
  have written : Payload.written w.view (.list [.text token]) = .ok [token] := by
    simp [Payload.written, Value.elements, Value.elements?, Payload.written?, notEmpty, bind,
      Except.bind, pure, Except.pure]
  have resolved :
      (w.resolve host owner (Value.ofEntry <$> w.token ⟨.int i, owner⟩) payload).answer =
        .ok (.list [.text token]) := by
    rw [current]
    exact resolve_of_restores restores holds.lexer alone
  have spliced := replaceAt_of_whole? owner (Value.whole?_int i) written
  rw [if_pos within] at spliced
  rw [plan, found]
  exact (Attempt.answer_bind_of_ok resolved _).trans spliced

end Replacing

/-- Each token of a text is lexed into itself. In a sequence that was lexed, whatever gives a token
back can take its place, and the sequence stays as it is. -/
theorem tokens_restored (host : Host) (text : String) :
    ∃ tokens : List String,
      (∀ view : View,
        (Lexer.standard.tokens host view (.text text)).answer = .ok tokens ∧
        ∀ token ∈ tokens,
          (Lexer.standard.tokens host view (.text token)).answer = .ok [token]) ∧
      (∀ w : Workspace,
        let lexed := w.perform host (.newSequence (.text text) Settings.standard)
        lexed.2.answer = .ok (.sequence w.sequences.length) ∧
          HoldsTokens lexed.1 w.sequences.length tokens) ∧
      ∀ (w : Workspace) (owner : SequenceId) (id : ItemId) (i : Nat) (token : String)
        (payload : Value), HoldsTokens w owner tokens → w.items[id]? = some ⟨.int i, owner⟩ →
        tokens[i]? = some token → Restores host token payload →
        let done := w.perform host (.ofItem id (.replace payload))
        done.2.answer = .ok (.range w.ranges.length) ∧
          done.1.ranges = w.ranges ++ [⟨.int i, .int (i + 1), owner⟩] ∧
          done.1.entries owner = w.entries owner := by
  have alone := fuse_pieces_of_mem_fuse text
  have written : ∀ token ∈ fuse isStock (Piece.pieces text), token ≠ "" :=
    ne_empty_of_mem_fuse (ne_empty_of_mem_pieces text)
  refine ⟨fuse isStock (Piece.pieces text), ?_, ?_, ?_⟩
  · intro view
    refine ⟨congrArg Attempt.answer (Lexer.tokens_standard host view text), ?_⟩
    intro token member
    rw [Lexer.tokens_standard, alone token member]
  · intro w
    exact ⟨congrArg (·.2.answer) (perform_newSequence w host text),
      holdsTokens_newSequence w host text⟩
  · intro w owner id i token payload holds found here restores
    have member := List.mem_of_getElem? here
    have plans := plan_replace_of_restores holds found here (written token member) restores
      (alone token member)
    refine ⟨answer_perform_of_splice plans, ranges_perform_of_splice plans, ?_⟩
    rw [entries_perform_of_splice plans holds.held, if_pos rfl]
    apply Entries.splice_self
    rw [holds.entries, List.getElem?_map, here]
    rfl

theorem tokens_restored_before_open_quotation :
    let host : Host := ⟨fun _ => .ok, fun _ _ => .ok⟩
    let tokens := ["é", "\\", "NOT IN", "'b"]
    let w : Workspace := ⟨[⟨tokens.map some, Lexer.standard⟩], [⟨.int 2, 0⟩, ⟨.int 3, 0⟩], []⟩
    (HoldsTokens w 0 tokens ∧ Restores host "NOT IN" (.text "NOT IN") ∧
      Restores host "'b" (.function 0)) ∧
      (Lexer.standard.tokens host w.view (.text "NOT IN")).answer = .ok ["NOT IN"] ∧
      (w.perform host (.ofItem 0 (.replace (.text "NOT IN")))).1.entries 0 = tokens.map some ∧
      (w.perform host (.ofItem 1 (.replace (.function 0)))).1.entries 0 = tokens.map some := by
  intro host tokens w
  have holds : HoldsTokens w 0 tokens := ⟨by decide, rfl, rfl⟩
  have operator : Restores host "NOT IN" (.text "NOT IN") := .text
  have quotation : Restores host "'b" (.function 0) := .function rfl
  obtain ⟨found, lexes, -, restored⟩ := tokens_restored host "é\\ NOT IN 'b"
  obtain ⟨spelled, alone⟩ := lexes w.view
  have known : found = tokens := by
    rw [Lexer.tokens_standard] at spelled
    have evaluated : fuse isStock (Piece.pieces "é\\ NOT IN 'b") = tokens := by decide +kernel
    exact (Except.ok.inj spelled).symm.trans evaluated
  subst known
  have whole := restored w 0 0 2 "NOT IN" (.text "NOT IN") holds rfl rfl operator
  have unclosed := restored w 0 1 3 "'b" (.function 0) holds rfl rfl quotation
  exact ⟨⟨holds, operator, quotation⟩, alone "NOT IN" (by decide), whole.2.2, unclosed.2.2⟩

end Workspace

end TokenEditor
