import TokenEditor.Operator.Table
import TokenEditor.Proofs.Operator.Grouping

/-!
# Fusing that is resumed

While pieces come in, the last token is still open and all tokens before it are settled. So the last
token is all that has to be kept to go on with more pieces later.
-/

namespace TokenEditor.Operator

/-- The tokens once one more piece has come: it is joined to the last of them, or follows it. -/
def absorb (isOperator : String → Bool) (tokens : List String) (piece : String) : List String :=
  match tokens.getLast? with
  | none => [piece]
  | some live =>
      match join? isOperator live piece with
      | some joined => tokens.dropLast ++ [joined]
      | none => tokens ++ [piece]

variable {isOperator : String → Bool}

section Absorbing

variable {live piece : String}

theorem absorb_of_joined {joined : String} (settled : List String)
    (found : join? isOperator live piece = some joined) :
    absorb isOperator (settled ++ [live]) piece = settled ++ [joined] := by
  simp [absorb, found]

theorem absorb_of_apart (settled : List String) (found : join? isOperator live piece = none) :
    absorb isOperator (settled ++ [live]) piece = settled ++ [live] ++ [piece] := by
  simp [absorb, found]

theorem foldl_absorb (settled : List String) (live : String) (pieces : List String) :
    pieces.foldl (absorb isOperator) (settled ++ [live]) =
      settled ++ fuseFrom isOperator live pieces := by
  induction pieces generalizing settled live with
  | nil => rfl
  | cons piece pieces ih =>
    rw [List.foldl_cons, fuseFrom]
    cases found : join? isOperator live piece with
    | some joined =>
      rw [absorb_of_joined settled found]
      exact ih settled joined
    | none =>
      rw [absorb_of_apart settled found, ih (settled ++ [live]) piece, List.append_assoc]
      rfl

theorem fuse_eq_foldl_absorb (pieces : List String) :
    fuse isOperator pieces = pieces.foldl (absorb isOperator) [] := by
  cases pieces with
  | nil => rfl
  | cons piece pieces => exact (foldl_absorb [] piece pieces).symm

theorem fuse_append (pieces more : List String) :
    fuse isOperator (pieces ++ more) = more.foldl (absorb isOperator) (fuse isOperator pieces) := by
  rw [fuse_eq_foldl_absorb, List.foldl_append, ← fuse_eq_foldl_absorb]

end Absorbing

theorem fuseFrom_ne_nil (value : String) (pieces : List String) :
    fuseFrom isOperator value pieces ≠ [] := by
  obtain ⟨_, _, _, _, -, fused, -⟩ := fuseFrom_grouping isOperator value pieces
  rw [fused]
  exact List.cons_ne_nil _ _

theorem fuse_ne_nil {pieces : List String} (begun : pieces ≠ []) :
    fuse isOperator pieces ≠ [] := by
  cases pieces with
  | nil => exact absurd rfl begun
  | cons piece pieces => exact fuseFrom_ne_nil piece pieces

theorem meetingsFrom_append {value live : String} {pieces : List String} (more : List String)
    (last : (fuseFrom isOperator value pieces).getLast? = some live) :
    meetingsFrom isOperator value (pieces ++ more) =
      meetingsFrom isOperator value pieces ++ meetingsFrom isOperator live more := by
  induction pieces generalizing value with
  | nil =>
    obtain rfl := Option.some.inj last
    rfl
  | cons piece pieces ih =>
    rw [fuseFrom] at last
    rw [List.cons_append, meetingsFrom, meetingsFrom, List.cons_append]
    cases found : join? isOperator value piece with
    | some joined =>
      rw [found] at last
      exact congrArg _ (ih last)
    | none =>
      rw [found, List.getLast?_cons_of_ne_nil (fuseFrom_ne_nil piece pieces)] at last
      exact congrArg _ (ih last)

theorem meetings_append {live : String} {pieces : List String} (more : List String)
    (last : (fuse isOperator pieces).getLast? = some live) :
    meetings isOperator (pieces ++ more) =
      meetings isOperator pieces ++ meetings isOperator (live :: more) := by
  cases pieces with
  | nil => cases last
  | cons piece pieces => exact meetingsFrom_append more last

/-- Fusing can be resumed from its last token: with more pieces, all tokens but the last stay where
they are, and what comes of the others is what comes of the last token and these pieces. What was
looked up before is not looked up again. -/
theorem fusing_resumed (isOperator : String → Bool) {pieces : List String} (begun : pieces ≠ [])
    (more : List String) :
    ∃ live, (fuse isOperator pieces).getLast? = some live ∧
      fuse isOperator (pieces ++ more) =
        (fuse isOperator pieces).dropLast ++ fuse isOperator (live :: more) ∧
      meetings isOperator (pieces ++ more) =
        meetings isOperator pieces ++ meetings isOperator (live :: more) ∧
      ∀ place, place + 1 < (fuse isOperator pieces).length →
        (fuse isOperator (pieces ++ more))[place]? = (fuse isOperator pieces)[place]? := by
  have notEmpty : fuse isOperator pieces ≠ [] := fuse_ne_nil begun
  let live := (fuse isOperator pieces).getLast notEmpty
  have last : (fuse isOperator pieces).getLast? = some live :=
    List.getLast?_eq_some_getLast notEmpty
  have parts : (fuse isOperator pieces).dropLast ++ [live] = fuse isOperator pieces :=
    List.dropLast_concat_getLast notEmpty
  have resumed : fuse isOperator (pieces ++ more) =
      (fuse isOperator pieces).dropLast ++ fuse isOperator (live :: more) := by
    rw [fuse_append, ← parts, foldl_absorb, parts]
    rfl
  refine ⟨live, last, resumed, meetings_append more last, fun place settled => ?_⟩
  have early : place < (fuse isOperator pieces).dropLast.length := by
    rw [List.length_dropLast]
    omega
  rw [resumed, List.getElem?_append_left early, List.getElem?_dropLast, if_pos (by omega)]

/-- The cut goes through an operator of three pieces, and another one begins behind it. -/
theorem fusing_resumed_inside_operator :
    let pieces := ["x", "!", "~"]
    let more := ["*", "NOT", "IN"]
    pieces ≠ [] ∧ fuse isStock pieces = ["x", "!~"] ∧
      fuse isStock (pieces ++ more) = ["x"] ++ fuse isStock ("!~" :: more) ∧
      fuse isStock (pieces ++ more) = ["x", "!~*", "NOT IN"] := by
  intro pieces more
  have begun : pieces ≠ [] := List.cons_ne_nil _ _
  have fused : fuse isStock pieces = ["x", "!~"] := by decide +kernel
  obtain ⟨live, last, resumed, -⟩ := fusing_resumed isStock begun more
  rw [fused] at last resumed
  obtain rfl : "!~" = live := Option.some.inj last
  exact ⟨begun, fused, resumed, by decide +kernel⟩

end TokenEditor.Operator
