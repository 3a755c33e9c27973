import Mathlib.Data.List.Chain
import TokenEditor.Proofs.Operator.Regrouping

/-!
# Tokens that stay apart

A token ends where it cannot be joined with the next piece. That piece may then grow to a longer
token, and with the whole of it there could be an operator after all. In a table that knows every
beginning of such an operator this does not happen, so that what has been fused once is not fused
any further.
-/

namespace TokenEditor.Operator

/-- No token is joined with the next one, in neither spelling. -/
def Apart (isOperator : String → Bool) (tokens : List String) : Prop :=
  tokens.IsChain fun token next =>
    isOperator (token ++ next) = false ∧ isOperator (token ++ " " ++ next) = false

/-- Where an operator ends in another one, what stands before that is an operator also with any
beginning of it. -/
def TailClosed (isOperator : String → Bool) : Prop :=
  ∀ front piece rest : String, front ≠ "" → piece ≠ "" → isOperator (piece ++ rest) = true →
    isOperator (front ++ (piece ++ rest)) = true → isOperator (front ++ piece) = true

section Fusing

variable {isOperator : String → Bool}

theorem length_fuseFrom_le (isOperator : String → Bool) (value : String) (pieces : List String) :
    (fuseFrom isOperator value pieces).length ≤ pieces.length + 1 := by
  induction pieces generalizing value with
  | nil => exact Nat.le_refl 1
  | cons piece pieces ih =>
    rw [fuseFrom]
    cases join? isOperator value piece with
    | some joined => exact Nat.le_succ_of_le (ih joined)
    | none => exact Nat.succ_le_succ (ih piece)

theorem fuseFrom_eq_cons_iff {value : String} {pieces : List String} :
    fuseFrom isOperator value pieces = value :: pieces ↔ Apart isOperator (value :: pieces) := by
  induction pieces generalizing value with
  | nil => exact iff_of_true rfl (List.isChain_singleton value)
  | cons piece pieces ih =>
    rw [fuseFrom, Apart, List.isChain_cons_cons, ← join?_eq_none_iff]
    cases joins : join? isOperator value piece with
    | some joined =>
      refine iff_of_false (fun same => ?_) (fun apart => by cases apart.1)
      have atMost := length_fuseFrom_le isOperator joined pieces
      have lengths := congrArg List.length same
      simp only [List.length_cons] at lengths
      omega
    | none =>
      rw [List.cons.injEq, ih, Apart]
      simp

theorem fuse_eq_self_iff {tokens : List String} :
    fuse isOperator tokens = tokens ↔ Apart isOperator tokens := by
  cases tokens with
  | nil => exact iff_of_true rfl List.isChain_nil
  | cons token tokens => exact fuseFrom_eq_cons_iff

section Closed

variable (closed : TailClosed isOperator)

include closed

/-- A token that ends before a piece is not joined with what the piece grows to either. -/
theorem TailClosed.apart_of_grown {token first next : String} {rest : List String}
    (notEmpty : token ≠ "") (firstNotEmpty : first ≠ "")
    (apart : join? isOperator token first = none) (grown : Grown isOperator first rest next) :
    isOperator (token ++ next) = false ∧ isOperator (token ++ " " ++ next) = false := by
  rw [join?_eq_none_iff] at apart
  rcases grown.eq_or_known with ⟨-, rfl⟩ | known
  · exact apart
  · obtain ⟨behind, whole⟩ := grown.isPrefix
    have parts : next = first ++ String.ofList behind := by
      rw [← String.toList_inj, String.toList_append, String.toList_ofList, whole]
    rw [parts] at known ⊢
    constructor
    · apply Bool.eq_false_iff.mpr
      intro joined
      have early := closed token first _ notEmpty firstNotEmpty known joined
      rw [apart.1] at early
      cases early
    · apply Bool.eq_false_iff.mpr
      intro joined
      have early := closed (token ++ " ") first _ (append_ne_empty notEmpty) firstNotEmpty known
        joined
      rw [apart.2] at early
      cases early

theorem TailClosed.apart_of_grouping {groups : List (List String)} {tokens : List String}
    (grouping : Grouping isOperator groups tokens)
    (notEmpty : ∀ piece ∈ groups.flatten, piece ≠ "") : Apart isOperator tokens := by
  induction grouping with
  | nil => exact List.isChain_nil
  | @cons first token rest groups tokens grows ends grouping ih =>
    have later : ∀ piece ∈ groups.flatten, piece ≠ "" :=
      fun piece member => notEmpty piece (by simp [member])
    have whole : token ≠ "" := grows.ne_empty (notEmpty first (by simp))
    cases grouping with
    | nil => exact List.isChain_singleton token
    | @cons nextFirst next nextRest groups tokens nextGrows nextEnds more =>
      refine List.isChain_cons_cons.mpr ⟨?_, ih later⟩
      exact closed.apart_of_grown whole (later nextFirst (by simp)) (ends_cons.mp ends) nextGrows

/-- With such a table, fusing comes to an end in one pass. -/
theorem TailClosed.apart_fuse {pieces : List String} (notEmpty : ∀ piece ∈ pieces, piece ≠ "") :
    Apart isOperator (fuse isOperator pieces) := by
  obtain ⟨groups, rfl, grouping⟩ := exists_grouping_fuse isOperator pieces
  exact closed.apart_of_grouping grouping notEmpty

end Closed

end Fusing

/-- Every operator with another one at its end has its beginnings in the table, as `->>` has
`->`. -/
theorem tailClosed_isStock : TailClosed isStock := by
  have each : ∀ operator ∈ stock, ∀ place ∈ List.range operator.length,
      isStock (String.ofList (operator.toList.drop (place + 1))) = true →
      ∀ more ∈ List.range operator.length,
        isStock (String.ofList (operator.toList.take (place + 1 + (more + 1)))) = true := by
    decide +kernel
  intro front piece rest notEmpty pieceNotEmpty known whole
  have frontPos : 0 < front.length := Nat.pos_of_ne_zero (mt String.length_eq_zero_iff.mp notEmpty)
  have piecePos : 0 < piece.length :=
    Nat.pos_of_ne_zero (mt String.length_eq_zero_iff.mp pieceNotEmpty)
  have place : front.length - 1 + 1 = front.toList.length := by
    rw [String.length_toList]
    omega
  have more : front.length - 1 + 1 + (piece.length - 1 + 1) =
      (front.toList ++ piece.toList).length := by
    rw [List.length_append, String.length_toList, String.length_toList]
    omega
  have atPlace := each _ (isStock_iff.mp whole) (front.length - 1)
    (by simp only [List.mem_range, String.length_append]; omega)
  rw [place, String.toList_append, List.drop_left, String.ofList_toList] at atPlace
  have early := atPlace known (piece.length - 1)
    (by simp only [List.mem_range, String.length_append]; omega)
  rw [← place, more, String.toList_append, ← List.append_assoc, List.take_left,
    ← String.toList_append, String.ofList_toList] at early
  exact early

/-- Whatever pieces there are, fusing them with the stock operators leaves nothing to fuse: no two
neighbours among the tokens are an operator together, and fusing these again gives the same. -/
theorem stock_fused_in_one_pass {pieces : List String} (notEmpty : ∀ piece ∈ pieces, piece ≠ "") :
    fuse isStock (fuse isStock pieces) = fuse isStock pieces ∧
      Apart isStock (fuse isStock pieces) := by
  have apart := tailClosed_isStock.apart_fuse notEmpty
  exact ⟨fuse_eq_self_iff.mpr apart, apart⟩

theorem stock_fused_in_one_pass_over_nested_ends :
    let pieces := ["!", "~", "*", "-", ">", ">", "#>", ">", "IS", "NOT", "IN", "a b"]
    let tokens := ["!~*", "->>", "#>>", "IS NOT", "IN", "a b"]
    (∀ piece ∈ pieces, piece ≠ "") ∧ fuse isStock pieces = tokens ∧
      fuse isStock tokens = tokens ∧ Apart isStock tokens := by
  intro pieces tokens
  have notEmpty : ∀ piece ∈ pieces, piece ≠ "" := by decide
  have fused : fuse isStock pieces = tokens := by decide +kernel
  obtain ⟨again, apart⟩ := stock_fused_in_one_pass notEmpty
  rw [fused] at again apart
  exact ⟨notEmpty, fused, again, apart⟩

/-- An empty piece hides a token from the piece after it, and is gone when they are fused again. -/
example : fuse isStock ["-", "", ">"] = ["-", ">"] ∧ fuse isStock ["-", ">"] = ["->"] := by
  decide +kernel

end TokenEditor.Operator
