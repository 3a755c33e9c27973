import TokenEditor.Proofs.Pattern
import TokenEditor.Proofs.Piece.Quotation
import TokenEditor.Proofs.Piece.WordRun

/-!
# The pattern of pieces

Pieces are described by one pattern: a quotation, a number, a word, or any single character that is
no blank, in this order of preference. Matched with backtracking it leaves what `first` leaves,
which never goes back.
-/

namespace TokenEditor.Piece

open Text Pattern

def quotationUnit (mark : Char) : Pattern :=
  .either (.one fun c => c != mark && c != '\\')
    (.either (.seq (.one (· == '\\')) (.one fun _ => true))
      (.seq (.one (· == mark)) (.one (· == mark))))

def quotationEnd (mark : Char) : Pattern := .either (.one (· == mark)) .atEnd

def quotationInside (mark : Char) : Pattern := .seq (.many (quotationUnit mark)) (quotationEnd mark)

def quotationPattern (mark : Char) : Pattern := .seq (.one (· == mark)) (quotationInside mark)

def anyQuotationPattern : Pattern :=
  .either (quotationPattern '\'') (.either (quotationPattern '"') (quotationPattern '\x60'))

def mantissaPattern : Pattern :=
  .either
    (.seq (oneOrMore (.one isDigit)) (.seq (.maybe (.one (· == '.'))) (.many (.one isDigit))))
    (.seq (.one (· == '.')) (oneOrMore (.one isDigit)))

def exponentPattern : Pattern :=
  .seq (.one fun c => c == 'e' || c == 'E')
    (.seq (.maybe (.one isSign)) (oneOrMore (.one isDigit)))

/-- A number is not followed by a word character. -/
def numberPattern : Pattern :=
  .seq mantissaPattern (.seq (.maybe exponentPattern) (.notBefore isWordChar))

def wordPattern : Pattern := oneOrMore (.one isWordChar)

def symbolPattern : Pattern := .one fun c => !isBlank c

def piecePattern : Pattern :=
  .either anyQuotationPattern (.either numberPattern (.either wordPattern symbolPattern))

section Quotations

variable {mark : Char}

theorem rest?_quotationEnd_cons_cons (c d : Char) (rest : List Char) :
    (quotationEnd mark).rest? (c :: d :: rest) = if c = mark then some (d :: rest) else none := by
  by_cases same : c = mark <;> simp [quotationEnd, rest?, same]

/-- What a quotation leaves is found by reading units, since no unit can be read in two ways. -/
theorem rest?_quotationInside (bare : mark ≠ '\\') (text : List Char) :
    (quotationInside mark).rest? text = (quotation? mark text).map Prod.snd := by
  unfold quotationInside
  -- Where two marks come together, the doubled one is tried before the end, as the reader does.
  fun_induction quotation? mark text with
  | case1 =>
    rw [rest?_many_seq_of_stop (by simp [quotationUnit])]
    simp [quotationEnd, rest?]
  | case2 =>
    rw [rest?_many_seq_of_stop (by simp [quotationUnit])]
    simp [quotationEnd, rest?, bare.symm]
  | case3 c unescaped =>
    by_cases same : c = mark
    · rw [rest?_many_seq_of_stop (by simp [quotationUnit, same, bare])]
      simp [quotationEnd, rest?, same]
    · rw [rest?_many_seq_of_step []
        (by simp [quotationUnit, same, unescaped]) (by simp)]
      rw [rest?_many_seq_of_stop (by simp [quotationUnit])]
      simp [quotationEnd, rest?]
  | case4 d rest ih =>
    rw [rest?_many_seq_of_step rest (by simp [quotationUnit, bare.symm])
      (by simp only [List.length_cons]; omega), ih, rest?_quotationEnd_cons_cons, if_neg bare.symm]
    simp [Function.comp_def]
  | case5 rest inside after found _ ih =>
    rw [rest?_many_seq_of_step rest (by simp [quotationUnit, bare])
      (by simp only [List.length_cons]; omega), ih, found]
    simp
  | case6 rest found _ ih =>
    rw [rest?_many_seq_of_step rest (by simp [quotationUnit, bare])
      (by simp only [List.length_cons]; omega), ih, found, rest?_quotationEnd_cons_cons]
    simp
  | case7 d rest other _ =>
    rw [rest?_many_seq_of_stop (by simp [quotationUnit, bare, other]),
      rest?_quotationEnd_cons_cons]
    simp
  | case8 c d rest unescaped other ih =>
    rw [rest?_many_seq_of_step (d :: rest)
      (by simp [quotationUnit, unescaped, other]) (by simp), ih,
      rest?_quotationEnd_cons_cons, if_neg other]
    simp [Function.comp_def]

theorem rest?_quotationPattern_cons (bare : mark ≠ '\\') (c : Char) (rest : List Char) :
    (quotationPattern mark).rest? (c :: rest) =
      if c = mark then (quotation? mark rest).map Prod.snd else none := by
  rw [quotationPattern, rest?_seq]
  by_cases same : c = mark
  · simp [same, rest?_quotationInside bare]
  · simp [same]

theorem rest?_anyQuotationPattern_cons (c : Char) (rest : List Char) :
    anyQuotationPattern.rest? (c :: rest) =
      if isMark c then (quotation? c rest).map Prod.snd else none := by
  rw [anyQuotationPattern, rest?_either, rest?_either, rest?_quotationPattern_cons (by decide),
    rest?_quotationPattern_cons (by decide), rest?_quotationPattern_cons (by decide)]
  by_cases mark : isMark c = true
  · rw [if_pos mark]
    have which : c = '\'' ∨ c = '"' ∨ c = '\x60' := by
      simpa [quotationMarks] using mem_quotationMarks_of_isMark mark
    rcases which with rfl | rfl | rfl <;> simp
  · have others : c ∉ quotationMarks := by simpa [isMark] using mark
    simp only [quotationMarks, List.mem_cons, List.not_mem_nil, or_false, not_or] at others
    simp [mark, others]

end Quotations

section Words

variable {text rest : List Char}

theorem mem_rests_mantissaPattern :
    rest ∈ mantissaPattern.rests text ↔ ∃ taken, text = taken ++ rest ∧ Mantissa taken := by
  unfold mantissaPattern
  rw [mem_rests_either, mem_rests_seq, mem_rests_seq]
  constructor
  · rintro (⟨middle, first, second⟩ | ⟨middle, first, second⟩)
    · obtain ⟨c, digits, rfl, all⟩ := mem_rests_oneOrMore_one.mp first
      obtain ⟨later, point, further⟩ := mem_rests_seq.mp second
      obtain ⟨fraction, rfl, more⟩ := mem_rests_many_one.mp further
      rcases mem_rests_maybe.mp point with point | rfl
      · obtain ⟨d, rfl, same⟩ := mem_rests_one.mp point
        obtain rfl : d = '.' := by simpa using same
        exact ⟨c :: digits ++ '.' :: fraction, by simp, .pointed (by simp) all more⟩
      · refine ⟨c :: digits ++ fraction, by simp, .whole (by simp) ?_⟩
        exact List.forall_mem_append.mpr ⟨all, more⟩
    · obtain ⟨c, rfl, same⟩ := mem_rests_one.mp first
      obtain rfl : c = '.' := by simpa using same
      obtain ⟨d, digits, rfl, all⟩ := mem_rests_oneOrMore_one.mp second
      exact ⟨'.' :: d :: digits, rfl, .fraction (by simp) all⟩
  · rintro ⟨taken, rfl, mantissa⟩
    cases mantissa with
    | whole notNil all =>
      obtain ⟨c, digits, rfl⟩ := List.exists_cons_of_ne_nil notNil
      left
      refine ⟨rest, mem_rests_oneOrMore_one.mpr ⟨c, digits, rfl, all⟩, ?_⟩
      exact mem_rests_seq.mpr ⟨rest, mem_rests_maybe.mpr (.inr rfl),
        mem_rests_many_one.mpr ⟨[], rfl, by simp⟩⟩
    | @pointed _ fraction notNil all further =>
      obtain ⟨c, digits, rfl⟩ := List.exists_cons_of_ne_nil notNil
      left
      refine ⟨'.' :: (fraction ++ rest),
        mem_rests_oneOrMore_one.mpr ⟨c, digits, by simp, all⟩, ?_⟩
      exact mem_rests_seq.mpr ⟨fraction ++ rest,
        mem_rests_maybe.mpr (.inl (mem_rests_one.mpr ⟨'.', rfl, rfl⟩)),
        mem_rests_many_one.mpr ⟨fraction, rfl, further⟩⟩
    | @fraction digits notNil all =>
      obtain ⟨c, digits, rfl⟩ := List.exists_cons_of_ne_nil notNil
      right
      exact ⟨c :: digits ++ rest, mem_rests_one.mpr ⟨'.', rfl, rfl⟩,
        mem_rests_oneOrMore_one.mpr ⟨c, digits, rfl, all⟩⟩

theorem mem_rests_exponentPattern :
    rest ∈ exponentPattern.rests text ↔ ∃ taken, text = taken ++ rest ∧ Exponent taken := by
  unfold exponentPattern
  rw [mem_rests_seq]
  constructor
  · rintro ⟨middle, first, second⟩
    obtain ⟨letter, rfl, letters⟩ := mem_rests_one.mp first
    have letters : letter = 'e' ∨ letter = 'E' := by simpa using letters
    obtain ⟨later, perhaps, number⟩ := mem_rests_seq.mp second
    obtain ⟨c, digits, rfl, all⟩ := mem_rests_oneOrMore_one.mp number
    rcases mem_rests_maybe.mp perhaps with perhaps | rfl
    · obtain ⟨sign, rfl, signed⟩ := mem_rests_one.mp perhaps
      exact ⟨letter :: sign :: c :: digits, rfl, .signed letters signed (by simp) all⟩
    · exact ⟨letter :: c :: digits, rfl, .unsigned letters (by simp) all⟩
  · rintro ⟨taken, rfl, exponent⟩
    cases exponent with
    | @unsigned letter digits letters notNil all =>
      obtain ⟨c, digits, rfl⟩ := List.exists_cons_of_ne_nil notNil
      refine ⟨c :: digits ++ rest, mem_rests_one.mpr ⟨letter, rfl, by simpa using letters⟩, ?_⟩
      exact mem_rests_seq.mpr ⟨_, mem_rests_maybe.mpr (.inr rfl),
        mem_rests_oneOrMore_one.mpr ⟨c, digits, rfl, all⟩⟩
    | @signed letter sign digits letters signed notNil all =>
      obtain ⟨c, digits, rfl⟩ := List.exists_cons_of_ne_nil notNil
      refine ⟨sign :: c :: digits ++ rest,
        mem_rests_one.mpr ⟨letter, rfl, by simpa using letters⟩, ?_⟩
      exact mem_rests_seq.mpr ⟨c :: digits ++ rest,
        mem_rests_maybe.mpr (.inl (mem_rests_one.mpr ⟨sign, rfl, signed⟩)),
        mem_rests_oneOrMore_one.mpr ⟨c, digits, rfl, all⟩⟩

theorem mem_rests_numberPattern :
    rest ∈ numberPattern.rests text ↔
      ∃ mantissa exponent, text = mantissa ++ exponent ++ rest ∧ Mantissa mantissa ∧
        (exponent = [] ∨ Exponent exponent) ∧ Stops isWordChar rest := by
  unfold numberPattern
  rw [mem_rests_seq]
  constructor
  · rintro ⟨middle, first, second⟩
    obtain ⟨mantissa, rfl, decimal⟩ := mem_rests_mantissaPattern.mp first
    obtain ⟨later, perhaps, last⟩ := mem_rests_seq.mp second
    obtain ⟨rfl, stops⟩ := mem_rests_notBefore.mp last
    rcases mem_rests_maybe.mp perhaps with taken | rfl
    · obtain ⟨exponent, rfl, raised⟩ := mem_rests_exponentPattern.mp taken
      exact ⟨mantissa, exponent, by simp, decimal, .inr raised, stops⟩
    · exact ⟨mantissa, [], by simp, decimal, .inl rfl, stops⟩
  · rintro ⟨mantissa, exponent, rfl, decimal, raised, stops⟩
    refine ⟨exponent ++ rest,
      mem_rests_mantissaPattern.mpr ⟨mantissa, by simp, decimal⟩, ?_⟩
    refine mem_rests_seq.mpr ⟨rest, ?_, mem_rests_notBefore.mpr ⟨rfl, stops⟩⟩
    apply mem_rests_maybe.mpr
    rcases raised with rfl | raised
    · exact .inr rfl
    · exact .inl (mem_rests_exponentPattern.mpr ⟨exponent, rfl, raised⟩)

theorem eq_wordRun_of_mem_rests_numberPattern (member : rest ∈ numberPattern.rests text) :
    rest = (wordRun text).2 := by
  obtain ⟨mantissa, exponent, rfl, decimal, raised, stops⟩ := mem_rests_numberPattern.mp member
  rw [wordRun_of_number decimal raised stops]

theorem mem_rests_numberPattern_of_continues {word beyond digits : List Char} {sign : Char}
    (continues : Continues word beyond sign digits rest) :
    rest ∈ numberPattern.rests (word ++ beyond) := by
  obtain ⟨⟨mantissa, letter, rfl, letters, decimal⟩, signed, rfl, notNil, all, stops⟩ := continues
  exact mem_rests_numberPattern.mpr ⟨mantissa, letter :: sign :: digits, by simp, decimal,
    .inr (.signed letters signed notNil all), stops⟩

theorem rest?_wordPattern_cons {c : Char} (rest : List Char) (word : isWordChar c = true) :
    wordPattern.rest? (c :: rest) = some ((c :: rest).dropWhile isWordChar) := by
  rw [wordPattern, rest?_oneOrMore_one_cons rest word, List.dropWhile_cons_of_pos word]

theorem rests_numberPattern_cons {c : Char} (rest : List Char) (other : isWordChar c = false) :
    numberPattern.rests (c :: rest) = [] := by
  simp [numberPattern, mantissaPattern, oneOrMore, isDigit_eq_false_of_isWordChar other,
    ne_point_of_isWordChar other]

theorem rests_wordPattern_cons {c : Char} (rest : List Char) (other : isWordChar c = false) :
    wordPattern.rests (c :: rest) = [] := by
  simp [wordPattern, oneOrMore, other]

/-- The number is preferred to the word, but it never leaves more. -/
theorem rest?_number_or_word {c : Char} (rest : List Char) (word : isWordChar c = true)
    (other : Pattern) :
    (either numberPattern (either wordPattern other)).rest? (c :: rest) =
      some (wordRun (c :: rest)).2 := by
  rw [rest?_either]
  cases number : numberPattern.rest? (c :: rest) with
  | some left =>
    have member : left ∈ numberPattern.rests (c :: rest) := List.mem_of_head? number
    rw [eq_wordRun_of_mem_rests_numberPattern member, Option.some_or]
  | none =>
    rw [Option.none_or, rest?_either, rest?_wordPattern_cons rest word, Option.some_or]
    have inside := forall_mem_takeWhile isWordChar (c :: rest)
    have stops := stops_dropWhile isWordChar (c :: rest)
    have whole := List.takeWhile_append_dropWhile (p := isWordChar) (l := c :: rest)
    have noNumber : numberPattern.rests (c :: rest) = [] := List.head?_eq_none_iff.mp number
    rcases continues_or_signedExponent_eq ((c :: rest).takeWhile isWordChar)
      ((c :: rest).dropWhile isWordChar) with ⟨_, _, _, continues⟩ | none
    · have member := mem_rests_numberPattern_of_continues continues
      rw [whole, noNumber] at member
      cases member
    · have run := wordRun_append_of_stops inside stops
      rw [whole, none] at run
      rw [run]

end Words

theorem rest?_number_or_word_of_other {c : Char} (rest : List Char)
    (other : isWordChar c = false) (last : Pattern) :
    (either numberPattern (either wordPattern last)).rest? (c :: rest) =
      last.rest? (c :: rest) := by
  rw [rest?_either, rest?_either, rest?, rests_numberPattern_cons rest other, rest?,
    rests_wordPattern_cons rest other]
  rfl

theorem rest?_symbolPattern_cons (c : Char) (rest : List Char) :
    symbolPattern.rest? (c :: rest) = if isBlank c then none else some rest := by
  cases blank : isBlank c <;> simp [symbolPattern, rest?, blank]

@[simp] theorem rest?_piecePattern_nil : piecePattern.rest? [] = none := by
  simp [piecePattern, anyQuotationPattern, quotationPattern, numberPattern, mantissaPattern,
    wordPattern, symbolPattern, oneOrMore, rest?]

/-- Matched with backtracking, the pattern of pieces leaves what `first` leaves, and it fits
wherever no blank stands. -/
theorem rest?_piecePattern_cons (c : Char) (rest : List Char) :
    piecePattern.rest? (c :: rest) = if isBlank c then none else some (first c rest).2 := by
  rw [piecePattern, rest?_either, rest?_anyQuotationPattern_cons]
  by_cases mark : isMark c = true
  · have other := isWordChar_eq_false_of_isMark mark
    rw [rest?_number_or_word_of_other rest other, rest?_symbolPattern_cons,
      isBlank_eq_false_of_isMark mark]
    cases read : quotation? c rest with
    | none => simp [first, mark, read]
    | some pair => simp [first, mark, read]
  · rw [if_neg mark, Option.none_or]
    by_cases word : isWordChar c = true
    · rw [rest?_number_or_word rest word, isBlank_eq_false_of_isWordChar word]
      simp [first, mark, word]
    · rw [rest?_number_or_word_of_other rest (Bool.eq_false_iff.mpr word),
        rest?_symbolPattern_cons]
      simp [first, mark, word]

end TokenEditor.Piece
