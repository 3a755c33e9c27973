import TokenEditor.Proofs.Piece.Matching

/-!
# Scanning a text

A text is scanned from its beginning: where the pattern of pieces fits, a piece is found and the
scan goes on behind it, and where it does not fit, a character is passed over. `cut` collects what
such a scan finds.
-/

namespace TokenEditor.Piece

open Text Pattern

/-- The scan of `text` has found the pieces `found` and stands before `rest`. -/
inductive Scanned (text : List Char) : List (List Char) → List Char → Prop
  | start : Scanned text [] text
  | skip {found : List (List Char)} {c : Char} {rest : List Char} :
      Scanned text found (c :: rest) → piecePattern.rest? (c :: rest) = none →
      Scanned text found rest
  | take {found : List (List Char)} {piece rest : List Char} :
      Scanned text found (piece ++ rest) → piecePattern.rest? (piece ++ rest) = some rest →
      Scanned text (found ++ [piece]) rest

section Steps

variable {c : Char} {rest : List Char}

theorem rest?_piecePattern_eq_none_iff :
    piecePattern.rest? (c :: rest) = none ↔ isBlank c = true := by
  rw [rest?_piecePattern_cons]
  cases isBlank c <;> simp

theorem rest?_piecePattern_of_visible (visible : isBlank c = false) :
    piecePattern.rest? (c :: rest) = some (first c rest).2 := by
  rw [rest?_piecePattern_cons, visible]
  rfl

theorem exists_first_of_rest?_piecePattern {piece rest : List Char}
    (fits : piecePattern.rest? (piece ++ rest) = some rest) :
    ∃ c tail, piece ++ rest = c :: tail ∧ isBlank c = false ∧ first c tail = (piece, rest) := by
  cases whole : piece ++ rest with
  | nil => simp [whole] at fits
  | cons c tail =>
    rw [whole] at fits
    have visible : isBlank c = false := by
      apply Bool.eq_false_iff.mpr
      intro blank
      rw [rest?_piecePattern_eq_none_iff.mpr blank] at fits
      cases fits
    rw [rest?_piecePattern_of_visible visible] at fits
    have left : (first c tail).2 = rest := Option.some.inj fits
    have taken : (first c tail).1 = piece := by
      have both := first_append c tail
      rw [left, ← whole] at both
      exact List.append_cancel_right both
    exact ⟨c, tail, rfl, visible, Prod.ext taken left⟩

theorem cut_of_rest?_piecePattern {piece rest : List Char}
    (fits : piecePattern.rest? (piece ++ rest) = some rest) :
    cut (piece ++ rest) = piece :: cut rest := by
  obtain ⟨c, tail, whole, visible, read⟩ := exists_first_of_rest?_piecePattern fits
  rw [whole, cut_cons tail visible, read]

end Steps

theorem Scanned.cut_eq {text : List Char} {found : List (List Char)} {rest : List Char}
    (scanned : Scanned text found rest) : cut text = found ++ cut rest := by
  induction scanned with
  | start => rfl
  | skip _ misses ih => rw [ih, cut_blank _ (rest?_piecePattern_eq_none_iff.mp misses)]
  | take _ fits ih => rw [ih, cut_of_rest?_piecePattern fits, List.append_cons]

theorem Scanned.first {text : List Char} {found : List (List Char)} {c : Char} {rest : List Char}
    (scanned : Scanned text found (c :: rest)) (visible : isBlank c = false) :
    Scanned text (found ++ [(Piece.first c rest).1]) (Piece.first c rest).2 := by
  rw [← first_append c rest] at scanned
  apply Scanned.take scanned
  rw [first_append]
  exact rest?_piecePattern_of_visible visible

theorem Scanned.finish {text : List Char} {found : List (List Char)} {rest : List Char}
    (scanned : Scanned text found rest) : Scanned text (found ++ cut rest) [] := by
  fun_induction cut rest generalizing found with
  | case1 => simpa using scanned
  | case2 c rest blank ih =>
    exact ih (scanned.skip (rest?_piecePattern_eq_none_iff.mpr blank))
  | case3 c rest visible ih =>
    rw [List.append_cons]
    exact ih (scanned.first (Bool.eq_false_iff.mpr visible))

theorem scanned_cut (text : List Char) : Scanned text (cut text) [] :=
  Scanned.start.finish

end TokenEditor.Piece
