import TokenEditor.Operator.Table
import TokenEditor.Proofs.Operator.Grouping
import TokenEditor.Proofs.Piece.Balanced

/-!
# The stock operators as texts

What is needed to know of the table when its operators are written out and cut again: each comes
back from its own pieces, and its first piece shows as soon as its last one is cut off. Only `@@` is
made of two pieces that become one where they touch, and no other operator begins or ends with it.
-/

namespace TokenEditor.Operator

open Piece Text

theorem isStock_iff {spelling : String} : isStock spelling = true ↔ spelling ∈ stock := by
  simp [isStock]

theorem fuse_pieces_of_mem_stock {operator : String} (known : operator ∈ stock) :
    fuse isStock (pieces operator) = [operator] := by
  have each : ∀ operator ∈ stock, fuse isStock (pieces operator) = [operator] := by
    decide +kernel
  exact each operator known

theorem balanced_of_mem_stock {operator : String} (known : operator ∈ stock) :
    Balanced operator.toList := by
  have each : ∀ operator ∈ stock, (operator.toList.all fun c => !isMark c) = true := by
    decide +kernel
  exact balanced_of_plain fun _ member => eq_false_of_all_not (each operator known) member

section Splits

variable {operator : String} {front back : List Char}

theorem head?_cut_of_split (known : operator ∈ stock) (whole : operator.toList = front ++ back)
    (notNil : front ≠ []) (one : (cut back).length ≤ 1) :
    (cut front).head? = (cut operator.toList).head? ∨ operator = "@@" := by
  have each : ∀ operator ∈ stock, ∀ place ∈ List.range operator.toList.length,
      (cut (operator.toList.drop (place + 1))).length ≤ 1 →
        (cut (operator.toList.take (place + 1))).head? = (cut operator.toList).head? ∨
          operator = "@@" := by
    decide +kernel
  obtain ⟨c, front, rfl⟩ := List.exists_cons_of_ne_nil notNil
  have place : front.length ∈ List.range operator.toList.length := by
    rw [whole, List.mem_range, List.length_append, List.length_cons]
    omega
  have atPlace := each operator known _ place
  rw [whole, ← List.length_cons (a := c), List.drop_left, List.take_left] at atPlace
  rw [whole]
  exact atPlace one

theorem eq_nil_of_signs_front (known : operator ∈ stock)
    (whole : operator.toList = ['@', '@'] ++ back) : back = [] := by
  have each : ∀ operator ∈ stock, operator.toList.take 2 = ['@', '@'] →
      operator.toList.drop 2 = [] := by decide +kernel
  have shown := each operator known
  rw [whole] at shown
  exact shown rfl

theorem eq_nil_of_signs_back (known : operator ∈ stock)
    (whole : operator.toList = front ++ ['@', '@']) : front = [] := by
  have each : ∀ operator ∈ stock, operator.toList.drop (operator.toList.length - 2) = ['@', '@'] →
      operator.toList.take (operator.toList.length - 2) = [] := by decide +kernel
  have shown := each operator known
  rw [whole, List.length_append] at shown
  simpa using shown

end Splits

end TokenEditor.Operator
