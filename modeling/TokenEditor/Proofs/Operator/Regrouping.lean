import TokenEditor.Entries.Basic
import TokenEditor.Proofs.Operator.Stock

/-!
# Grouping the pieces of tokens again

Tokens that are written with spaces between them are cut into pieces of their own, perhaps others
than those they were fused from. These are grouped as the first ones were, so the same tokens are
fused from them.
-/

namespace TokenEditor.Operator

open Piece

section Tokens

variable {isOperator : String → Bool}

theorem Grown.eq_or_known {value token : String} {rest : List String}
    (grown : Grown isOperator value rest token) :
    (rest = [] ∧ token = value) ∨ isOperator token = true := by
  induction grown with
  | done => exact .inl ⟨rfl, rfl⟩
  | joined known _ ih | spaced _ known _ ih =>
    rcases ih with ⟨-, rfl⟩ | known
    · exact .inr known
    · exact .inr known

theorem Grouping.known_or_mem {groups : List (List String)} {tokens : List String}
    (grouping : Grouping isOperator groups tokens) :
    ∀ token ∈ tokens, isOperator token = true ∨ token ∈ groups.flatten := by
  induction grouping with
  | nil => simp
  | @cons first token rest groups tokens grows _ _ ih =>
    intro other member
    rw [List.flatten_cons, List.mem_append]
    rcases List.mem_cons.mp member with rfl | member
    · rcases grows.eq_or_known with ⟨rfl, rfl⟩ | known
      · exact .inr (.inl (by simp))
      · exact .inl known
    · rcases ih other member with known | later
      · exact .inl known
      · exact .inr (.inr later)

theorem Grouping.known_or_mem_dropLast {groups : List (List String)} {tokens : List String}
    (grouping : Grouping isOperator groups tokens) :
    ∀ token ∈ tokens.dropLast, isOperator token = true ∨ token ∈ groups.flatten.dropLast := by
  induction grouping with
  | nil => simp
  | @cons first token rest groups tokens grows _ grouping ih =>
    intro other member
    cases grouping with
    | nil => simp at member
    | @cons next nextToken nextRest groups tokens =>
      have notNil : ((next :: nextRest) :: groups).flatten ≠ [] := by simp
      rw [List.flatten_cons, List.dropLast_append_of_ne_nil notNil, List.mem_append]
      rw [List.dropLast_cons_of_ne_nil (by simp)] at member
      rcases List.mem_cons.mp member with rfl | member
      · rcases grows.eq_or_known with ⟨rfl, rfl⟩ | known
        · exact .inr (.inl (by simp))
        · exact .inl known
      · rcases ih other member with known | later
        · exact .inl known
        · exact .inr (.inr later)

end Tokens

theorem cut_of_mem_pieces (text : String) :
    ∀ piece ∈ pieces text, cut piece.toList = [piece.toList] := by
  intro piece member
  obtain ⟨found, inside, rfl⟩ := List.mem_map.mp member
  rw [String.toList_ofList]
  exact cut_of_mem_cut text.toList found inside

theorem pieces_of_cut {piece : String} (alone : cut piece.toList = [piece.toList]) :
    pieces piece = [piece] := by
  rw [pieces, alone, List.map_singleton, String.ofList_toList]

theorem ne_empty_of_mem_pieces (text : String) : ∀ piece ∈ pieces text, piece ≠ "" := by
  intro piece member
  obtain ⟨found, inside, rfl⟩ := List.mem_map.mp member
  intro empty
  have nothing : found = [] := by rw [← String.toList_ofList (l := found), empty]; rfl
  exact ne_nil_of_mem_cut text.toList found inside nothing

/-- Whatever text a token is from, by itself it is lexed into just that token. -/
theorem fuse_pieces_of_mem_fuse (text : String) :
    ∀ token ∈ fuse isStock (pieces text), fuse isStock (pieces token) = [token] := by
  intro token member
  obtain ⟨groups, whole, grouping⟩ := exists_grouping_fuse isStock (pieces text)
  rcases grouping.known_or_mem token member with known | inside
  · exact fuse_pieces_of_mem_stock (isStock_iff.mp known)
  · rw [whole] at inside
    rw [pieces_of_cut (cut_of_mem_pieces text token inside)]
    rfl

section Growing

variable {first value token : String} {rest : List String}

/-- An operator that was joined from a value begins with the first piece of the value, unless it is
`@@`. -/
theorem head?_cut_of_joined {operator : String} {back : List Char} (known : operator ∈ stock)
    (whole : operator.toList = value.toList ++ back) (one : (cut back).length = 1)
    (notEmpty : value ≠ "")
    (begins : (cut value.toList).head? = some first.toList ∨ value = "@@") :
    (cut operator.toList).head? = some first.toList ∨ operator = "@@" := by
  rcases begins with begins | rfl
  · have front : value.toList ≠ [] := fun empty => notEmpty (String.toList_eq_nil_iff.mp empty)
    rcases head?_cut_of_split known whole front (Nat.le_of_eq one) with same | signs
    · exact .inl (same ▸ begins)
    · exact .inr signs
  · rw [eq_nil_of_signs_front known whole] at one
    simp at one

/-- Whatever a token has grown by, its own first piece is the one it began with, unless it is
`@@`. -/
theorem Grown.head?_cut (grown : Grown isStock value rest token)
    (alone : ∀ piece ∈ rest, cut piece.toList = [piece.toList]) (notEmpty : value ≠ "")
    (begins : (cut value.toList).head? = some first.toList ∨ value = "@@") :
    (cut token.toList).head? = some first.toList ∨ token = "@@" := by
  induction grown with
  | done => exact begins
  | @joined value piece _ _ known _ ih =>
    apply ih (fun other member => alone other (by simp [member])) (append_ne_empty notEmpty)
    have one : (cut piece.toList).length = 1 := by rw [alone piece (by simp)]; rfl
    exact head?_cut_of_joined (isStock_iff.mp known) String.toList_append one notEmpty begins
  | @spaced value piece _ _ _ known _ ih =>
    apply ih (fun other member => alone other (by simp [member]))
      (append_ne_empty (append_ne_empty notEmpty))
    have one : (cut (' ' :: piece.toList)).length = 1 := by
      rw [cut_blank _ Text.isBlank_space, alone piece (by simp)]
      rfl
    have whole : (value ++ " " ++ piece).toList = value.toList ++ ' ' :: piece.toList := by
      simp [String.toList_append]
    exact head?_cut_of_joined (isStock_iff.mp known) whole one notEmpty begins

theorem Grown.head?_cut_of_alone (grown : Grown isStock first rest token)
    (alone : ∀ piece ∈ first :: rest, cut piece.toList = [piece.toList]) :
    token ≠ "" ∧ ((cut token.toList).head? = some first.toList ∨ token = "@@") := by
  have own := alone first (by simp)
  have notEmpty : first ≠ "" := by
    rintro rfl
    simp at own
  refine ⟨grown.ne_empty notEmpty, ?_⟩
  apply grown.head?_cut (fun piece member => alone piece (by simp [member])) notEmpty
  rw [own]
  exact .inl rfl

/-- Cut into its own pieces, a token grows from them. -/
theorem Grown.exists_pieces (grown : Grown isStock first rest token)
    (alone : cut first.toList = [first.toList]) :
    ∃ piece others, pieces token = piece :: others ∧ Grown isStock piece others token := by
  rcases grown.eq_or_known with ⟨-, rfl⟩ | known
  · exact ⟨token, [], pieces_of_cut alone, .done⟩
  · have fused := fuse_pieces_of_mem_stock (isStock_iff.mp known)
    obtain ⟨groups, whole, grouping⟩ := exists_grouping_fuse isStock (pieces token)
    rw [fused] at grouping
    cases grouping with
    | cons grows _ none =>
      cases none
      exact ⟨_, _, by simpa using whole.symm, grows⟩

end Growing

/-- A token still ends where the next one is cut into its own pieces. -/
theorem Ends.of_head? {token next first : String} {rest later : List String}
    (ends : Ends isStock token (first :: rest)) (notEmpty : token ≠ "")
    (begins : (cut next.toList).head? = some first.toList ∨ next = "@@") :
    Ends isStock token (pieces next ++ later) := by
  rcases begins with begins | rfl
  · obtain ⟨others, same⟩ := List.head?_eq_some_iff.mp begins
    rw [pieces, same, List.map_cons, String.ofList_toList, List.cons_append]
    exact ends_cons.mpr (ends_cons.mp ends)
  · have alone : pieces "@@" = ["@@"] := by decide +kernel
    rw [alone, List.singleton_append, ends_cons, join?_eq_none_iff]
    constructor
    · apply Bool.eq_false_iff.mpr
      intro known
      have front := eq_nil_of_signs_back (isStock_iff.mp known) String.toList_append
      exact notEmpty (String.toList_eq_nil_iff.mp front)
    · apply Bool.eq_false_iff.mpr
      intro known
      have front := eq_nil_of_signs_back (isStock_iff.mp known) String.toList_append
      exact append_ne_empty notEmpty (String.toList_eq_nil_iff.mp front)

/-- The pieces that the tokens are cut into are grouped into the same tokens. -/
theorem Grouping.pieces {groups : List (List String)} {tokens : List String}
    (grouping : Grouping isStock groups tokens)
    (alone : ∀ piece ∈ groups.flatten, cut piece.toList = [piece.toList]) :
    Grouping isStock (tokens.map Piece.pieces) tokens := by
  induction grouping with
  | nil => exact .nil
  | @cons first token rest groups tokens grows ends grouping ih =>
    have own : ∀ piece ∈ first :: rest, cut piece.toList = [piece.toList] := by
      intro piece member
      apply alone
      rw [List.flatten_cons]
      exact List.mem_append_left _ member
    have later : ∀ piece ∈ groups.flatten, cut piece.toList = [piece.toList] := by
      intro piece member
      apply alone
      rw [List.flatten_cons]
      exact List.mem_append_right _ member
    have grown := grows.head?_cut_of_alone own
    obtain ⟨piece, others, cutInto, grows⟩ := grows.exists_pieces (alone first (by simp))
    rw [List.map_cons, cutInto]
    refine .cons grows ?_ (ih later)
    cases grouping with
    | nil => exact ends_nil token
    | cons nextGrows =>
      have next := nextGrows.head?_cut_of_alone fun piece member =>
        later piece (List.mem_append_left _ member)
      rw [List.map_cons, List.flatten_cons]
      exact ends.of_head? grown.1 next.2

theorem pieces_spaced {tokens : List String}
    (balanced : ∀ token ∈ tokens.dropLast, Balanced token.toList) :
    pieces (Entries.spaced tokens) = (tokens.map pieces).flatten := by
  have parts : ∀ part ∈ (tokens.map String.toList).dropLast, Balanced part := by
    intro part member
    rw [← List.map_dropLast] at member
    obtain ⟨token, inside, rfl⟩ := List.mem_map.mp member
    exact balanced token inside
  have space : " ".toList = [' '] := rfl
  rw [Entries.spaced, Piece.pieces, String.toList_intercalate, space, cut_intercalate_space parts,
    List.flatMap_def, List.map_flatten, List.map_map, List.map_map]
  rfl

/-- Written with spaces between them, tokens are fused from their own pieces again. -/
theorem fuse_pieces_spaced (text : String) (steady : text.toList.getLast? ≠ some '\\') :
    fuse isStock (pieces (Entries.spaced (fuse isStock (pieces text)))) =
      fuse isStock (pieces text) := by
  obtain ⟨groups, whole, grouping⟩ := exists_grouping_fuse isStock (pieces text)
  generalize fuse isStock (pieces text) = tokens at grouping
  have alone : ∀ piece ∈ groups.flatten, cut piece.toList = [piece.toList] := by
    rw [whole]
    exact cut_of_mem_pieces text
  -- Only the last token can have an open quotation in it, and nothing is written behind that.
  have balanced : ∀ token ∈ tokens.dropLast, Balanced token.toList := by
    intro token inside
    rcases grouping.known_or_mem_dropLast token inside with known | early
    · exact balanced_of_mem_stock (isStock_iff.mp known)
    · rw [whole, Piece.pieces, ← List.map_dropLast] at early
      obtain ⟨piece, member, rfl⟩ := List.mem_map.mp early
      rw [String.toList_ofList]
      exact balanced_of_mem_dropLast_cut steady piece member
  rw [pieces_spaced balanced]
  exact (grouping.pieces alone).fuse_eq

end TokenEditor.Operator
