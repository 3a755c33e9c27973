import TokenEditor.Proofs.Piece.Scan

/-!
# The extent of a piece

What the pattern of pieces takes at a quotation mark and at a word character, wherever a scan meets
one. A quotation goes as far as it should, except where a backslash is left over at the end of the
text; words and numbers are whole runs of word characters.
-/

namespace TokenEditor.Piece

open Text Pattern

/-- Where the scan stands, the pattern takes `piece` and leaves `after`. -/
structure Taken (text : String) (found : List (List Char)) (rest piece after : List Char) :
    Prop where
  fits : piecePattern.rest? rest = some after
  whole : rest = piece ++ after
  pieces : pieces text = (found ++ piece :: cut after).map String.ofList

theorem Scanned.taken {text : String} {found : List (List Char)} {c : Char} {rest : List Char}
    (scanned : Scanned text.toList found (c :: rest)) (visible : isBlank c = false) :
    Taken text found (c :: rest) (Piece.first c rest).1 (Piece.first c rest).2 := by
  refine ⟨rest?_piecePattern_of_visible visible, (first_append c rest).symm, ?_⟩
  rw [Piece.pieces, scanned.cut_eq, cut_cons rest visible]

section Quotations

variable {mark : Char} {rest : List Char}

theorem first_of_quotation? {inside after : List Char} (opens : isMark mark = true)
    (read : quotation? mark rest = some (inside, after)) :
    first mark rest = (mark :: inside, after) := by
  simp [first, opens, read]

theorem first_of_no_quotation? (opens : isMark mark = true) (read : quotation? mark rest = none) :
    first mark rest = ([mark], rest) := by
  simp [first, opens, read]

/-- What is taken of a text that dangles: the mark alone, or as much as the first half of the last
mark written twice closes. -/
def IsCutShort (mark : Char) (text piece : List Char) : Prop :=
  (∃ tail, Unpaired mark tail ∧ text = tail ++ ['\\'] ∧ piece = [mark]) ∨
    ∃ before tail, Body mark before ∧ Unpaired mark tail ∧
      text = before ++ mark :: mark :: (tail ++ ['\\']) ∧ piece = mark :: (before ++ [mark])

theorem isCutShort_of_dangles (opens : isMark mark = true) (dangles : Dangles mark rest) :
    IsCutShort mark rest (first mark rest).1 ∧ (first mark rest).2 ≠ [] := by
  rcases dangles.unpaired_or_paired with
    ⟨tail, unpaired, rfl⟩ | ⟨before, tail, units, unpaired, rfl⟩
  · rw [first_of_no_quotation? opens (quotation?_of_unpaired unpaired)]
    exact ⟨.inl ⟨tail, unpaired, rfl, rfl⟩, by simp⟩
  · have read := quotation?_of_paired (ne_backslash_of_isMark opens) units unpaired
    rw [first_of_quotation? opens read]
    exact ⟨.inr ⟨before, tail, units, unpaired, rfl, rfl⟩, by simp⟩

theorem Closes.not_dangles {body after : List Char} (opens : isMark mark = true)
    (closes : Closes mark rest body after) : ¬ Dangles mark rest := by
  intro dangles
  have bare := ne_backslash_of_isMark opens
  have read := quotation?_of_closes bare closes
  rcases dangles.unpaired_or_paired with
    ⟨tail, unpaired, rfl⟩ | ⟨before, tail, units, unpaired, rfl⟩
  · rw [quotation?_of_unpaired unpaired] at read
    cases read
  · rw [quotation?_of_paired bare units unpaired] at read
    obtain ⟨-, left⟩ := Prod.mk.inj (Option.some.inj read)
    exact closes.alone (by rw [← left]; rfl)

/-- A quotation is taken as it should be if and only if its text does not dangle. -/
theorem isQuoted_first_iff (opens : isMark mark = true) :
    IsQuoted mark rest (first mark rest).1 ↔ ¬ Dangles mark rest := by
  have bare := ne_backslash_of_isMark opens
  constructor
  · rintro (⟨body, after, closes, -⟩ | ⟨-, all⟩)
    · exact closes.not_dangles opens
    · intro dangles
      apply (isCutShort_of_dangles opens dangles).2
      have whole := first_append mark rest
      rwa [all, List.append_right_eq_self] at whole
  · intro steady
    rcases closes_or_body_or_dangles mark rest with ⟨body, after, closes⟩ | units | dangles
    · rw [first_of_quotation? opens (quotation?_of_closes bare closes)]
      exact .inl ⟨body, after, closes, rfl⟩
    · rw [first_of_quotation? opens (quotation?_of_body bare units)]
      exact .inr ⟨fun body after closes => closes.not_body bare units, rfl⟩
    · exact absurd dangles steady

end Quotations

/-- Wherever a scan meets a quotation mark, the quotation goes up to the first mark that stands
alone, or to the end of the text where there is none. Only where a backslash is left over at the end
it is cut short. -/
theorem quotation_extent {text : String} {found : List (List Char)} {mark : Char}
    {rest : List Char} (scanned : Scanned text.toList found (mark :: rest))
    (opens : isMark mark = true) :
    ∃ piece after, Taken text found (mark :: rest) piece after ∧
      (IsQuoted mark rest piece ↔ ¬ Dangles mark rest) ∧
      (Dangles mark rest → IsCutShort mark rest piece) := by
  refine ⟨_, _, scanned.taken (isBlank_eq_false_of_isMark opens), isQuoted_first_iff opens, ?_⟩
  intro dangles
  exact (isCutShort_of_dangles opens dangles).1

theorem Taken.eq_first {text : String} {found : List (List Char)} {c : Char}
    {rest piece after : List Char} (taken : Taken text found (c :: rest) piece after)
    (visible : isBlank c = false) : piece = (first c rest).1 := by
  have left := taken.fits
  rw [rest?_piecePattern_of_visible visible] at left
  have whole := (first_append c rest).trans taken.whole
  rw [Option.some.inj left] at whole
  exact (List.append_cancel_right whole).symm

theorem scanned_quotation_after_word :
    Scanned "a 'b\\'''c' d".toList [['a']] ('\'' :: "b\\'''c' d".toList) := by
  have word : Scanned "a 'b\\'''c' d".toList [['a']] (' ' :: '\'' :: "b\\'''c' d".toList) :=
    Scanned.start.first (by decide)
  exact word.skip (rest?_piecePattern_eq_none_iff.mpr (by decide))

theorem quotation_extent_after_word :
    Scanned "a 'b\\'''c' d".toList [['a']] ('\'' :: "b\\'''c' d".toList) ∧ isMark '\'' = true ∧
      ∃ piece after,
        Taken "a 'b\\'''c' d" [['a']] ('\'' :: "b\\'''c' d".toList) piece after ∧
        (IsQuoted '\'' "b\\'''c' d".toList piece ↔ ¬ Dangles '\'' "b\\'''c' d".toList) ∧
        (Dangles '\'' "b\\'''c' d".toList → IsCutShort '\'' "b\\'''c' d".toList piece) :=
  ⟨scanned_quotation_after_word, rfl, quotation_extent scanned_quotation_after_word rfl⟩

/-- With a backslash at the end of the text, an open quotation is not taken at all: its mark is a
piece of its own. -/
theorem not_isQuoted_before_last_backslash :
    Scanned "'abc\\".toList [] ('\'' :: "abc\\".toList) ∧
      pieces "'abc\\" = ["'", "abc", "\\"] ∧
      ∀ piece after, Taken "'abc\\" [] ('\'' :: "abc\\".toList) piece after →
        ¬ IsQuoted '\'' "abc\\".toList piece := by
  refine ⟨.start, by decide +kernel, ?_⟩
  intro piece after taken quoted
  rw [taken.eq_first rfl] at quoted
  apply (isQuoted_first_iff rfl).mp quoted
  have unit : ∀ {c : Char} {units : List Char}, c ≠ '\'' ∧ c ≠ '\\' → Body '\'' units →
      Body '\'' (c :: units) := fun other units => .plain other.1 other.2 units
  exact ⟨['a', 'b', 'c'], unit (by decide) (unit (by decide) (unit (by decide) .nil)), rfl⟩

/-- Of a run of word characters and what comes behind it, a word takes the run, and a signed
exponent if one continues it. -/
inductive IsWord (run beyond : List Char) : List Char → List Char → Prop
  | continued {sign : Char} {digits after : List Char} :
      Continues run beyond sign digits after → IsWord run beyond (run ++ sign :: digits) after
  | whole : (∀ sign digits after, ¬ Continues run beyond sign digits after) →
      IsWord run beyond run beyond

theorem first_of_word {c : Char} {rest : List Char} (word : isWordChar c = true) :
    first c rest = wordRun (c :: rest) := by
  simp [first, isMark_eq_false_of_isWordChar word, word]

section Words

variable {run beyond : List Char}

theorem isWord_wordRun (inside : ∀ d ∈ run, isWordChar d = true)
    (stops : Stops isWordChar beyond) :
    IsWord run beyond (wordRun (run ++ beyond)).1 (wordRun (run ++ beyond)).2 := by
  by_cases continued : ∃ sign digits after, Continues run beyond sign digits after
  · obtain ⟨sign, digits, after, continues⟩ := continued
    rw [wordRun_of_continues inside continues]
    exact .continued continues
  · rcases continues_or_signedExponent_eq run beyond with continues | none
    · exact absurd continues continued
    · rw [wordRun_append_of_stops inside stops, none, List.append_nil]
      exact .whole fun sign digits after continues => continued ⟨sign, digits, after, continues⟩

theorem IsWord.stops {piece after : List Char} (word : IsWord run beyond piece after)
    (stops : Stops isWordChar beyond) : Stops isWordChar after := by
  cases word with
  | continued continues => exact continues.stops
  | whole => exact stops

theorem IsWord.length_le {piece after : List Char} (word : IsWord run beyond piece after) :
    run.length ≤ piece.length := by
  cases word with
  | continued => simp
  | whole => exact Nat.le_refl _

end Words

/-- Wherever a scan meets a word character, the whole run of word characters is taken, and what is
taken ends in no such run. No way to read a number there would leave more. -/
theorem word_extent {text : String} {found : List (List Char)} {c : Char} {rest : List Char}
    (scanned : Scanned text.toList found (c :: rest)) (word : isWordChar c = true) :
    ∃ run beyond piece after,
      (c :: rest = run ++ beyond ∧ (∀ d ∈ run, isWordChar d = true) ∧ Stops isWordChar beyond) ∧
      Taken text found (c :: rest) piece after ∧ IsWord run beyond piece after ∧
      Stops isWordChar after ∧ wordPattern.rest? (c :: rest) = some beyond ∧
      ∀ left ∈ numberPattern.rests (c :: rest), left.length ≤ beyond.length := by
  have inside := forall_mem_takeWhile isWordChar (c :: rest)
  have stops := stops_dropWhile isWordChar (c :: rest)
  have whole := List.takeWhile_append_dropWhile (p := isWordChar) (l := c :: rest)
  have taken := scanned.taken (isBlank_eq_false_of_isWordChar word)
  have isWord := isWord_wordRun inside stops
  rw [whole] at isWord
  rw [first_of_word word] at taken
  refine ⟨_, _, _, _, ⟨whole.symm, inside, stops⟩, taken, isWord, isWord.stops stops,
    rest?_wordPattern_cons rest word, ?_⟩
  intro left member
  rw [eq_wordRun_of_mem_rests_numberPattern member]
  have pieceLength := congrArg List.length (wordRun_append (c :: rest))
  have runLength := congrArg List.length whole
  have atLeast := isWord.length_le
  rw [List.length_append] at pieceLength runLength
  omega

theorem scanned_number_after_symbol :
    Scanned "(1.5e-07+".toList [['(']] ('1' :: ".5e-07+".toList) :=
  Scanned.start.first (by decide)

theorem word_extent_after_symbol :
    Scanned "(1.5e-07+".toList [['(']] ('1' :: ".5e-07+".toList) ∧ isWordChar '1' = true ∧
      ∃ run beyond piece after,
        ('1' :: ".5e-07+".toList = run ++ beyond ∧ (∀ d ∈ run, isWordChar d = true) ∧
          Stops isWordChar beyond) ∧
        Taken "(1.5e-07+" [['(']] ('1' :: ".5e-07+".toList) piece after ∧
        IsWord run beyond piece after ∧ Stops isWordChar after ∧
        wordPattern.rest? ('1' :: ".5e-07+".toList) = some beyond ∧
        ∀ left ∈ numberPattern.rests ('1' :: ".5e-07+".toList), left.length ≤ beyond.length :=
  ⟨scanned_number_after_symbol, by decide, word_extent scanned_number_after_symbol (by decide)⟩

end TokenEditor.Piece
