import TokenEditor.Lexer.Basic
import TokenEditor.Proofs.Piece.Balanced

/-!
# A text and its pieces

A scan passes over blanks and takes pieces, so that what it has left behind at any time is the
pieces it has found with nothing but blanks around them. At its end this is the whole text.
-/

namespace TokenEditor

theorem Lexer.pieces_standard (host : Host) (view : View) (text : String) :
    Lexer.standard.pieces host view (.text text) = pure (Piece.pieces text) := by
  simp [Lexer.pieces, Lexer.standard, Cutter.cut, Function.comp_def, Value.shown]

namespace Piece

open Text

/-- Blanks stand in quotations only, and what begins neither a quotation nor a word is a single
character. -/
structure IsPiece (piece : List Char) : Prop where
  notNil : piece ≠ []
  quoted : (∃ c ∈ piece, isBlank c = true) →
    ∃ mark inside, piece = mark :: inside ∧ isMark mark = true
  single : ∀ c more, piece = c :: more → isMark c = false → isWordChar c = false → more = []

section First

variable {c : Char} (rest : List Char)

theorem isBlank_eq_false_of_mem_first (plain : isMark c = false) (visible : isBlank c = false) :
    ∀ d ∈ (first c rest).1, isBlank d = false := by
  intro d member
  rcases eq_or_word_or_sign_of_mem_first plain member with rfl | word | sign
  · exact visible
  · exact isBlank_eq_false_of_isWordChar word
  · exact isBlank_eq_false_of_isSign sign

theorem isPiece_first (visible : isBlank c = false) : IsPiece (first c rest).1 := by
  obtain ⟨more, begins⟩ := first_fst_cons c rest
  refine ⟨by simp [begins], ?_, ?_⟩
  · rintro ⟨d, member, blank⟩
    by_cases opens : isMark c = true
    · exact ⟨c, more, begins, opens⟩
    · rw [isBlank_eq_false_of_mem_first rest (Bool.eq_false_iff.mpr opens) visible d member]
        at blank
      cases blank
  · intro d tail same unmarked other
    obtain ⟨rfl, rfl⟩ := List.cons.inj (begins.symm.trans same)
    rw [first_of_symbol unmarked other] at same
    exact (List.cons.inj same).2.symm

end First

/-- `text` is made up of `pieces` in their order, with nothing but blanks before, between and behind
them. -/
def Segments (pieces : List (List Char)) (text : List Char) : Prop :=
  ∃ gaps last, gaps.length = pieces.length ∧
    (∀ gap ∈ gaps ++ [last], ∀ c ∈ gap, isBlank c = true) ∧
    text = (List.zipWith (· ++ ·) gaps pieces).flatten ++ last

section Segments

variable {found : List (List Char)} {passed : List Char}

theorem segments_nil : Segments [] [] := ⟨[], [], rfl, by simp, rfl⟩

theorem Segments.skip {c : Char} (segments : Segments found passed) (blank : isBlank c = true) :
    Segments found (passed ++ [c]) := by
  obtain ⟨gaps, last, paired, blanks, rfl⟩ := segments
  refine ⟨gaps, last ++ [c], paired, ?_, by rw [List.append_assoc]⟩
  have before : ∀ gap ∈ gaps, ∀ d ∈ gap, isBlank d = true :=
    fun gap member => blanks gap (by simp [member])
  have behind : ∀ d ∈ last ++ [c], isBlank d = true :=
    List.forall_mem_append.mpr ⟨blanks last (by simp), List.forall_mem_singleton.mpr blank⟩
  exact List.forall_mem_append.mpr ⟨before, List.forall_mem_singleton.mpr behind⟩

theorem Segments.take (segments : Segments found passed) (piece : List Char) :
    Segments (found ++ [piece]) (passed ++ piece) := by
  obtain ⟨gaps, last, paired, blanks, rfl⟩ := segments
  refine ⟨gaps ++ [last], [], by simp [paired], ?_, ?_⟩
  · exact List.forall_mem_append.mpr ⟨blanks, by simp⟩
  · rw [List.zipWith_append paired]
    simp

end Segments

section Scanning

variable {text : List Char} {found : List (List Char)} {rest : List Char}

/-- Whatever a scan has left behind is in the pieces that it has found, or is blank. -/
theorem Scanned.segments (scanned : Scanned text found rest) :
    ∃ passed, text = passed ++ rest ∧ Segments found passed := by
  induction scanned with
  | start => exact ⟨[], rfl, segments_nil⟩
  | @skip _ c rest _ misses ih =>
    obtain ⟨passed, whole, segments⟩ := ih
    refine ⟨passed ++ [c], by simpa using whole, ?_⟩
    exact segments.skip (rest?_piecePattern_eq_none_iff.mp misses)
  | @take _ piece rest _ _ ih =>
    obtain ⟨passed, whole, segments⟩ := ih
    exact ⟨passed ++ piece, by simpa using whole, segments.take piece⟩

theorem Scanned.isPiece (scanned : Scanned text found rest) : ∀ piece ∈ found, IsPiece piece := by
  induction scanned with
  | start => simp
  | skip _ _ ih => exact ih
  | take _ fits ih =>
    obtain ⟨c, tail, -, visible, read⟩ := exists_first_of_rest?_piecePattern fits
    have last := isPiece_first tail visible
    rw [read] at last
    exact List.forall_mem_append.mpr ⟨ih, List.forall_mem_singleton.mpr last⟩

end Scanning

/-- No text is lost and none is doubled: it is its pieces in order with blanks around them. A scan
passes over blanks alone and goes on wherever it finds a piece. -/
theorem lossless_segmentation (text : String) :
    (∀ (host : Host) (view : View),
      Lexer.standard.pieces host view (.text text) = pure (pieces text)) ∧
    Segments ((pieces text).map String.toList) text.toList ∧
    (∀ piece ∈ pieces text, IsPiece piece.toList) ∧
    ∀ found rest, Scanned text.toList found rest →
      (∃ passed, text.toList = passed ++ rest ∧ Segments found passed) ∧
      ∀ c more, rest = c :: more →
        if isBlank c then piecePattern.rest? rest = none
        else ∃ piece after, piece ≠ [] ∧ Taken text found rest piece after := by
  have scanned := scanned_cut text.toList
  refine ⟨fun host view => Lexer.pieces_standard host view text, ?_, ?_, ?_⟩
  · obtain ⟨passed, whole, segments⟩ := scanned.segments
    rw [List.append_nil] at whole
    rw [whole]
    simpa [pieces, Function.comp_def] using segments
  · intro piece member
    obtain ⟨characters, cut, rfl⟩ := List.mem_map.mp member
    rw [String.toList_ofList]
    exact scanned.isPiece characters cut
  · intro found rest scanned
    refine ⟨scanned.segments, ?_⟩
    rintro c more rfl
    cases blank : isBlank c with
    | true => exact rest?_piecePattern_eq_none_iff.mpr blank
    | false => exact ⟨_, _, (isPiece_first more blank).notNil, scanned.taken blank⟩

end Piece

end TokenEditor
