import TokenEditor.Proofs.Piece.Extent

/-!
# Balanced texts

A text in which every quotation is closed is cut on its own, whatever comes behind a blank. Each
piece of a text is cut into itself, and all but the last are balanced if the text does not end in a
backslash.
-/

namespace TokenEditor.Piece

open Text

/-- Every quotation that is opened outside of another is closed. -/
inductive Balanced : List Char → Prop
  | nil : Balanced []
  | plain {c : Char} {rest : List Char} :
      isMark c = false → Balanced rest → Balanced (c :: rest)
  | quoted {mark : Char} {rest body after : List Char} :
      isMark mark = true → Closes mark rest body after → Balanced after → Balanced (mark :: rest)

def Parted (text : List Char) : Prop := ∀ c, text.head? = some c → isBlank c = true

theorem parted_space (rest : List Char) : Parted (' ' :: rest) := by
  intro c same
  obtain rfl := Option.some.inj same
  exact isBlank_space

theorem Balanced.append_plain {front text : List Char}
    (plain : ∀ c ∈ front, isMark c = false) (balanced : Balanced text) :
    Balanced (front ++ text) := by
  induction front with
  | nil => exact balanced
  | cons c front ih =>
    exact .plain (plain c (by simp)) (ih fun d member => plain d (by simp [member]))

theorem balanced_of_plain {text : List Char} (plain : ∀ c ∈ text, isMark c = false) :
    Balanced text := by
  have whole := Balanced.append_plain plain .nil
  rwa [List.append_nil] at whole

theorem Balanced.of_append_plain {front text : List Char}
    (plain : ∀ c ∈ front, isMark c = false) (balanced : Balanced (front ++ text)) :
    Balanced text := by
  induction front with
  | nil => exact balanced
  | cons c front ih =>
    apply ih fun d member => plain d (by simp [member])
    cases balanced with
    | plain _ balanced => exact balanced
    | quoted opens =>
      rw [plain c (by simp)] at opens
      cases opens

section Words

variable {behind : List Char}

theorem Parted.stops (parted : Parted behind) : Stops isWordChar behind := by
  cases behind with
  | nil => rfl
  | cons c behind => exact stops_cons.mpr (isWordChar_eq_false_of_isBlank (parted c rfl))

theorem takeWhile_append_of_parted (text : List Char) (parted : Parted behind) :
    (text ++ behind).takeWhile isWordChar = text.takeWhile isWordChar ∧
      (text ++ behind).dropWhile isWordChar = text.dropWhile isWordChar ++ behind := by
  induction text with
  | nil =>
    have inside : ∀ c ∈ ([] : List Char), isWordChar c = true := by simp
    exact ⟨takeWhile_append_of_stops inside parted.stops,
      dropWhile_append_of_stops inside parted.stops⟩
  | cons c text ih => by_cases word : isWordChar c = true <;> simp [word, ih]

theorem signedExponent_append_of_parted (word beyond : List Char) (parted : Parted behind) :
    signedExponent word (beyond ++ behind) =
      ((signedExponent word beyond).1, (signedExponent word beyond).2 ++ behind) := by
  cases beyond with
  | nil =>
    cases behind with
    | nil => rfl
    | cons c behind => simp [signedExponent, isSign_eq_false_of_isBlank (parted c rfl)]
  | cons sign after =>
    obtain ⟨taken, left⟩ := takeWhile_append_of_parted after parted
    simp only [signedExponent, List.cons_append, taken, left]
    split <;> rfl

theorem wordRun_append_of_parted (text : List Char) (parted : Parted behind) :
    wordRun (text ++ behind) = ((wordRun text).1, (wordRun text).2 ++ behind) := by
  obtain ⟨taken, left⟩ := takeWhile_append_of_parted text parted
  simp only [wordRun, taken, left, signedExponent_append_of_parted _ _ parted]

end Words

theorem IsWord.isWordChar_or_isSign {run beyond piece after : List Char}
    (word : IsWord run beyond piece after) (inside : ∀ c ∈ run, isWordChar c = true) :
    ∀ c ∈ piece, isWordChar c = true ∨ isSign c = true := by
  cases word with
  | @continued sign digits after continues =>
    refine List.forall_mem_append.mpr
      ⟨fun c member => .inl (inside c member), List.forall_mem_cons.mpr ⟨?_, ?_⟩⟩
    · exact .inr continues.signed
    · exact fun c member => .inl (isWordChar_of_digits continues.digits c member)
  | whole => exact fun c member => .inl (inside c member)

theorem isWordChar_or_isSign_of_mem_wordRun (text : List Char) :
    ∀ c ∈ (wordRun text).1, isWordChar c = true ∨ isSign c = true := by
  have inside := forall_mem_takeWhile isWordChar text
  have isWord := isWord_wordRun inside (stops_dropWhile isWordChar text)
  rw [List.takeWhile_append_dropWhile] at isWord
  exact isWord.isWordChar_or_isSign inside

theorem isMark_eq_false_of_mem_wordRun (text : List Char) :
    ∀ c ∈ (wordRun text).1, isMark c = false := by
  intro c member
  rcases isWordChar_or_isSign_of_mem_wordRun text c member with word | sign
  · exact isMark_eq_false_of_isWordChar word
  · exact isMark_eq_false_of_isSign sign

section Cutting

variable {c : Char} {rest behind : List Char}

theorem first_of_symbol (unmarked : isMark c = false) (other : isWordChar c = false) :
    first c rest = ([c], rest) := by
  simp [first, unmarked, other]

theorem eq_or_word_or_sign_of_mem_first {d : Char} (plain : isMark c = false)
    (member : d ∈ (first c rest).1) : d = c ∨ isWordChar d = true ∨ isSign d = true := by
  by_cases word : isWordChar c = true
  · rw [first_of_word word] at member
    exact .inr (isWordChar_or_isSign_of_mem_wordRun (c :: rest) d member)
  · rw [first_of_symbol plain (Bool.eq_false_iff.mpr word)] at member
    exact .inl (List.mem_singleton.mp member)

/-- What stands behind a balanced text is not looked at by its first piece, and what the piece
leaves is balanced again. -/
theorem Balanced.first_append (balanced : Balanced (c :: rest)) (parted : Parted behind) :
    first c (rest ++ behind) = ((first c rest).1, (first c rest).2 ++ behind) ∧
      Balanced (first c rest).2 := by
  cases balanced with
  | plain unmarked balanced =>
    by_cases word : isWordChar c = true
    · have run := wordRun_append_of_parted (c :: rest) parted
      rw [first_of_word word, first_of_word word]
      refine ⟨run, ?_⟩
      apply Balanced.of_append_plain (isMark_eq_false_of_mem_wordRun (c :: rest))
      rw [wordRun_append]
      exact .plain unmarked balanced
    · have other := Bool.eq_false_iff.mpr word
      rw [first_of_symbol unmarked other, first_of_symbol unmarked other]
      exact ⟨rfl, balanced⟩
  | @quoted _ _ body after opens closes balanced =>
    have bare := ne_backslash_of_isMark opens
    have further : Closes c (rest ++ behind) body (after ++ behind) := by
      refine ⟨by rw [closes.whole]; simp, closes.units, ?_⟩
      intro same
      cases after with
      | nil =>
        have blank := parted c same
        rw [isBlank_eq_false_of_isMark opens] at blank
        cases blank
      | cons d after => exact closes.alone same
    rw [first_of_quotation? opens (quotation?_of_closes bare closes),
      first_of_quotation? opens (quotation?_of_closes bare further)]
    exact ⟨rfl, balanced⟩

theorem cut_append_of_balanced {text : List Char} (balanced : Balanced text)
    (parted : Parted behind) : cut (text ++ behind) = cut text ++ cut behind := by
  fun_induction cut text with
  | case1 => rfl
  | case2 c rest blank ih =>
    rw [List.cons_append, cut_blank _ blank]
    have plain : ∀ d ∈ [c], isMark d = false := by
      simpa using isMark_eq_false_of_isBlank blank
    exact ih (Balanced.of_append_plain plain balanced)
  | case3 c rest visible ih =>
    obtain ⟨same, balanced⟩ := balanced.first_append parted
    rw [List.cons_append, cut_cons _ (Bool.eq_false_iff.mpr visible), same, ih balanced,
      List.cons_append]

end Cutting

section Pieces

variable {text : List Char}

theorem IsWord.wordRun_piece {run beyond piece after : List Char}
    (word : IsWord run beyond piece after) (inside : ∀ c ∈ run, isWordChar c = true) :
    wordRun piece = (piece, []) := by
  cases word with
  | @continued sign digits after continues =>
    have alone : Continues run (sign :: digits) sign digits [] :=
      { continues with whole := by simp, stops := rfl }
    exact wordRun_of_continues inside alone
  | whole =>
    have run := wordRun_append_of_stops inside (stops_nil isWordChar)
    simpa [signedExponent] using run

/-- A first piece read by itself is the same piece. It is balanced, or it takes all there is, or it
is cut short because a backslash is left over at the end. -/
theorem first_of_first {c : Char} {rest more after : List Char}
    (read : first c rest = (c :: more, after)) :
    first c more = (c :: more, []) ∧
      (Balanced (c :: more) ∨ after = [] ∨ Dangles c rest) := by
  by_cases opens : isMark c = true
  · have bare := ne_backslash_of_isMark opens
    rcases closes_or_body_or_dangles c rest with ⟨body, left, closes⟩ | units | dangles
    · rw [first_of_quotation? opens (quotation?_of_closes bare closes)] at read
      obtain ⟨same, -⟩ := Prod.mk.inj read
      obtain rfl := (List.cons.inj same).2
      have alone : Closes c (body ++ [c]) body [] := ⟨rfl, closes.units, by simp⟩
      exact ⟨first_of_quotation? opens (quotation?_of_closes bare alone),
        .inl (.quoted opens alone .nil)⟩
    · have whole := first_of_quotation? opens (quotation?_of_body bare units)
      rw [whole] at read
      obtain ⟨same, nothing⟩ := Prod.mk.inj read
      obtain rfl := (List.cons.inj same).2
      exact ⟨whole, .inr (.inl nothing.symm)⟩
    · refine ⟨?_, .inr (.inr dangles)⟩
      have short := (isCutShort_of_dangles opens dangles).1
      rw [read] at short
      rcases short with ⟨_, -, -, same⟩ | ⟨before, _, units, -, -, same⟩
      · obtain rfl := (List.cons.inj same).2
        exact first_of_quotation? opens (quotation?_of_body bare .nil)
      · obtain rfl := (List.cons.inj same).2
        have alone : Closes c (before ++ [c]) before [] := ⟨rfl, units, by simp⟩
        exact first_of_quotation? opens (quotation?_of_closes bare alone)
  · by_cases word : isWordChar c = true
    · rw [first_of_word word] at read
      have inside := forall_mem_takeWhile isWordChar (c :: rest)
      have isWord := isWord_wordRun inside (stops_dropWhile isWordChar (c :: rest))
      rw [List.takeWhile_append_dropWhile, read] at isWord
      have plain := isMark_eq_false_of_mem_wordRun (c :: rest)
      rw [read] at plain
      rw [first_of_word word]
      exact ⟨isWord.wordRun_piece inside, .inl (balanced_of_plain plain)⟩
    · have unmarked := Bool.eq_false_iff.mpr opens
      have other := Bool.eq_false_iff.mpr word
      rw [first_of_symbol unmarked other] at read
      obtain ⟨same, -⟩ := Prod.mk.inj read
      obtain rfl := (List.cons.inj same).2
      exact ⟨first_of_symbol unmarked other, .inl (.plain unmarked .nil)⟩

theorem exists_first_eq (c : Char) (rest : List Char) :
    ∃ more after, first c rest = (c :: more, after) := by
  obtain ⟨more, begins⟩ := first_fst_cons c rest
  exact ⟨more, (first c rest).2, by rw [← begins]⟩

theorem ne_nil_of_mem_cut (text : List Char) : ∀ piece ∈ cut text, piece ≠ [] := by
  fun_induction cut text with
  | case1 => simp
  | case2 c rest _ ih => exact ih
  | case3 c rest _ ih =>
    intro piece member
    rcases List.mem_cons.mp member with rfl | member
    · obtain ⟨more, begins⟩ := first_fst_cons c rest
      simp [begins]
    · exact ih piece member

theorem getLast?_ne_of_append (front : List Char) {behind : List Char} {c : Char}
    (steady : (front ++ behind).getLast? ≠ some c) : behind.getLast? ≠ some c := by
  intro last
  apply steady
  rw [List.getLast?_append, last, Option.some_or]

theorem getLast?_first_snd_ne {c d : Char} {rest : List Char}
    (steady : (c :: rest).getLast? ≠ some d) : (first c rest).2.getLast? ≠ some d := by
  rw [← first_append c rest] at steady
  exact getLast?_ne_of_append _ steady

theorem cut_of_mem_cut (text : List Char) : ∀ piece ∈ cut text, cut piece = [piece] := by
  fun_induction cut text with
  | case1 => simp
  | case2 c rest _ ih => exact ih
  | case3 c rest visible ih =>
    intro piece member
    rcases List.mem_cons.mp member with rfl | member
    · obtain ⟨more, after, read⟩ := exists_first_eq c rest
      have alone := (first_of_first read).1
      rw [read, cut_cons more (Bool.eq_false_iff.mpr visible), alone, cut_nil]
    · exact ih piece member

theorem balanced_of_mem_dropLast_cut (steady : text.getLast? ≠ some '\\') :
    ∀ piece ∈ (cut text).dropLast, Balanced piece := by
  fun_induction cut text with
  | case1 => simp
  | case2 c rest _ ih => exact ih (getLast?_ne_of_append [c] steady)
  | case3 c rest _ ih =>
    intro piece member
    by_cases last : cut (first c rest).2 = []
    · simp [last] at member
    · rw [List.dropLast_cons_of_ne_nil last] at member
      rcases List.mem_cons.mp member with rfl | member
      · obtain ⟨more, after, read⟩ := exists_first_eq c rest
        rw [read] at last ⊢
        rcases (first_of_first read).2 with balanced | rfl | ⟨body, -, rfl⟩
        · exact balanced
        · exact absurd cut_nil last
        · rw [← List.cons_append, List.getLast?_concat] at steady
          exact absurd rfl steady
      · exact ih (getLast?_first_snd_ne steady) piece member

/-- Texts of which all but the last are balanced are cut one by one where spaces part them. -/
theorem cut_intercalate_space {texts : List (List Char)}
    (balanced : ∀ text ∈ texts.dropLast, Balanced text) :
    cut ([' '].intercalate texts) = texts.flatMap cut := by
  induction texts with
  | nil => simp
  | cons text texts ih =>
    cases texts with
    | nil => simp
    | cons next texts =>
      rw [List.dropLast_cons_of_ne_nil (by simp)] at balanced
      have others := ih fun other member => balanced other (by simp [member])
      rw [List.intercalate_cons_cons, List.append_assoc, List.singleton_append,
        cut_append_of_balanced (balanced text (by simp)) (parted_space _),
        cut_blank _ isBlank_space, others]
      rfl

end Pieces

end TokenEditor.Piece
