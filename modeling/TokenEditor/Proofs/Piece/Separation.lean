import TokenEditor.Proofs.Piece.Balanced

/-!
# Texts that are cut on their own

A text can be read from left to right, character by character, to see whether it ends outside of all
quotations. If it does, it is cut on its own wherever blanks part it from what comes behind, and if
it does not, blanks alone are enough to change its pieces.
-/

namespace TokenEditor.Piece

open Text

/-- Where a reading from left to right stands. -/
inductive Standing where
  | outside
  | inside (mark : Char)
  /-- Behind a backslash, which protects the next character. -/
  | escaping (mark : Char)
  /-- Behind a mark that ends the quotation, unless the same mark follows. -/
  | closing (mark : Char)

namespace Standing

def enter (c : Char) : Standing := if isMark c then inside c else outside

def step : Standing → Char → Standing
  | outside, c => enter c
  | inside mark, c =>
      if c = '\\' then escaping mark else if c = mark then closing mark else inside mark
  | escaping mark, _ => inside mark
  | closing mark, c => if c = mark then inside mark else enter c

def isOutside : Standing → Bool
  | outside | closing _ => true
  | inside _ | escaping _ => false

end Standing

/-- Whether a text ends outside of all quotations. -/
def isBalanced (text : List Char) : Bool := (text.foldl Standing.step .outside).isOutside

section Reading

variable {mark c : Char} {rest body after : List Char}

theorem isBalanced_plain (rest : List Char) (plain : isMark c = false) :
    isBalanced (c :: rest) = isBalanced rest := by
  simp [isBalanced, Standing.step, Standing.enter, plain]

theorem isBalanced_mark (opens : isMark mark = true) :
    isBalanced (mark :: rest) = (rest.foldl Standing.step (.inside mark)).isOutside := by
  simp [isBalanced, Standing.step, Standing.enter, opens]

theorem Body.foldl_step (bare : mark ≠ '\\') (units : Body mark body) (rest : List Char) :
    (body ++ rest).foldl Standing.step (.inside mark) =
      rest.foldl Standing.step (.inside mark) := by
  induction units with
  | nil => rfl
  | escaped c _ ih => simpa [Standing.step] using ih
  | doubled _ ih => simpa [Standing.step, bare] using ih
  | plain other unescaped _ ih => simpa [Standing.step, other, unescaped] using ih

theorem isOutside_foldl_closing (alone : after.head? ≠ some mark) :
    (after.foldl Standing.step (.closing mark)).isOutside = isBalanced after := by
  cases after with
  | nil => rfl
  | cons c after =>
    have other : c ≠ mark := by simpa using alone
    simp [isBalanced, Standing.step, other]

theorem Closes.isBalanced_eq (opens : isMark mark = true) (closes : Closes mark rest body after) :
    isBalanced (mark :: rest) = isBalanced after := by
  have bare := ne_backslash_of_isMark opens
  rw [isBalanced_mark opens, closes.whole, closes.units.foldl_step bare, List.foldl_cons]
  simp only [Standing.step, bare, if_false, if_true]
  exact isOutside_foldl_closing closes.alone

theorem Body.isBalanced_eq_false (opens : isMark mark = true) (units : Body mark rest) :
    isBalanced (mark :: rest) = false := by
  have read := units.foldl_step (ne_backslash_of_isMark opens) []
  rw [List.append_nil] at read
  rw [isBalanced_mark opens, read]
  rfl

theorem Dangles.isBalanced_eq_false (opens : isMark mark = true) (dangles : Dangles mark rest) :
    isBalanced (mark :: rest) = false := by
  obtain ⟨body, units, rfl⟩ := dangles
  rw [isBalanced_mark opens, units.foldl_step (ne_backslash_of_isMark opens)]
  rfl

end Reading

theorem Balanced.isBalanced {text : List Char} (balanced : Balanced text) :
    isBalanced text = true := by
  induction balanced with
  | nil => rfl
  | plain unmarked _ ih => rw [isBalanced_plain _ unmarked, ih]
  | quoted opens closes _ ih => rw [closes.isBalanced_eq opens, ih]

theorem balanced_of_isBalanced (text : List Char) (ends : isBalanced text = true) :
    Balanced text := by
  match text with
  | [] => exact .nil
  | c :: rest =>
    by_cases opens : isMark c = true
    · rcases closes_or_body_or_dangles c rest with ⟨body, after, closes⟩ | units | dangles
      · rw [closes.isBalanced_eq opens] at ends
        exact .quoted opens closes (balanced_of_isBalanced after ends)
      · rw [units.isBalanced_eq_false opens] at ends
        cases ends
      · rw [dangles.isBalanced_eq_false opens] at ends
        cases ends
    · have plain := Bool.eq_false_iff.mpr opens
      rw [isBalanced_plain rest plain] at ends
      exact .plain plain (balanced_of_isBalanced rest ends)
termination_by text.length
decreasing_by
  · have whole := congrArg List.length closes.whole
    simp at whole ⊢
    omega
  · simp

theorem isBalanced_iff_balanced {text : List Char} : isBalanced text = true ↔ Balanced text :=
  ⟨balanced_of_isBalanced text, Balanced.isBalanced⟩

section Blanks

variable {blanks : List Char}

theorem cut_append_of_blanks (blank : ∀ c ∈ blanks, isBlank c = true) (rest : List Char) :
    cut (blanks ++ rest) = cut rest := by
  induction blanks with
  | nil => rfl
  | cons c blanks ih =>
    rw [List.cons_append, cut_blank _ (blank c (by simp)),
      ih fun d member => blank d (by simp [member])]

theorem parted_of_blanks (notNil : blanks ≠ []) (blank : ∀ c ∈ blanks, isBlank c = true)
    (rest : List Char) : Parted (blanks ++ rest) := by
  obtain ⟨d, more, rfl⟩ := List.exists_cons_of_ne_nil notNil
  intro c same
  obtain rfl := Option.some.inj same
  exact blank d (by simp)

end Blanks

/-- A quotation that is open takes in a blank behind it, also one that a backslash leaves dangling:
the backslash protects the blank. -/
theorem first_of_open {mark : Char} {rest : List Char} (opens : isMark mark = true)
    (unclosed : Body mark rest ∨ Dangles mark rest) :
    first mark (rest ++ [' ']) = (mark :: (rest ++ [' ']), []) := by
  have bare := ne_backslash_of_isMark opens
  have visible : isBlank mark = false := isBlank_eq_false_of_isMark opens
  have space : (' ' : Char) ≠ mark := by
    rintro rfl
    rw [isBlank_space] at visible
    cases visible
  have units : Body mark (rest ++ [' ']) := by
    rcases unclosed with units | ⟨body, units, rfl⟩
    · exact units.append (.plain space (by decide) .nil)
    · rw [List.append_assoc]
      exact units.append (.escaped ' ' .nil)
  exact first_of_quotation? opens (quotation?_of_body bare units)

theorem isMark_eq_false_of_mem_first {c : Char} (rest : List Char) (plain : isMark c = false) :
    ∀ d ∈ (first c rest).1, isMark d = false := by
  intro d member
  rcases eq_or_word_or_sign_of_mem_first plain member with rfl | word | sign
  · exact plain
  · exact isMark_eq_false_of_isWordChar word
  · exact isMark_eq_false_of_isSign sign

/-- A text whose pieces do not change with a blank behind it is balanced. -/
theorem balanced_of_cut_append_space {text : List Char} (same : cut (text ++ [' ']) = cut text) :
    Balanced text := by
  fun_induction cut text with
  | case1 => exact .nil
  | case2 c rest blank ih =>
    rw [List.cons_append, cut_blank _ blank] at same
    exact .plain (isMark_eq_false_of_isBlank blank) (ih same)
  | case3 c rest visible ih =>
    rw [List.cons_append, cut_cons _ (Bool.eq_false_iff.mpr visible)] at same
    obtain ⟨piece, others⟩ := List.cons.inj same
    have left : (first c (rest ++ [' '])).2 = (first c rest).2 ++ [' '] := by
      have whole := first_append c (rest ++ [' '])
      rw [← List.cons_append, ← first_append c rest, piece, List.append_assoc] at whole
      exact List.append_cancel_left whole
    rw [left] at others
    have behind := ih others
    by_cases opens : isMark c = true
    · rcases closes_or_body_or_dangles c rest with ⟨body, after, closes⟩ | unclosed
      · rw [first_of_quotation? opens
          (quotation?_of_closes (ne_backslash_of_isMark opens) closes)] at behind
        exact .quoted opens closes behind
      · rw [first_of_open opens unclosed] at left
        simp at left
    · have plain := isMark_eq_false_of_mem_first rest (Bool.eq_false_iff.mpr opens)
      have whole := behind.append_plain plain
      rwa [first_append] at whole

theorem pieces_eq_append_iff {whole text rest : String} :
    pieces whole = pieces text ++ pieces rest ↔
      cut whole.toList = cut text.toList ++ cut rest.toList := by
  rw [pieces, pieces, pieces, ← List.map_append,
    List.map_inj_right fun _ _ => String.ofList_injective]

/-- The balanced texts are those that are cut on their own wherever blanks stand between them and
what comes behind, whatever that is. -/
theorem isBalanced_iff_cut_apart (text : String) :
    isBalanced text.toList = true ↔
      ∀ blanks rest : String, blanks ≠ "" → (∀ c ∈ blanks.toList, isBlank c = true) →
        pieces (text ++ blanks ++ rest) = pieces text ++ pieces rest := by
  simp only [isBalanced_iff_balanced, pieces_eq_append_iff, String.toList_append,
    List.append_assoc]
  constructor
  · intro balanced blanks rest notEmpty blank
    have parted := parted_of_blanks (by simpa using notEmpty) blank rest.toList
    rw [cut_append_of_balanced balanced parted, cut_append_of_blanks blank]
  · intro apart
    have same := apart " " "" (by decide) (by simpa using isBlank_space)
    apply balanced_of_cut_append_space
    simpa using same

/-- Without the blanks the number would go on; what comes behind ends in an open quotation. -/
theorem isBalanced_iff_cut_apart_before_open_quotation :
    isBalanced "x = 'it''s \\'' + 1e".toList = true ∧ "\t " ≠ "" ∧
      (∀ c ∈ "\t ".toList, isBlank c = true) ∧
      pieces ("x = 'it''s \\'' + 1e" ++ "\t " ++ "+5 'open\\") =
        pieces "x = 'it''s \\'' + 1e" ++ pieces "+5 'open\\" := by
  have balanced : isBalanced "x = 'it''s \\'' + 1e".toList = true := by decide
  have notEmpty : "\t " ≠ "" := by decide
  have blank : ∀ c ∈ "\t ".toList, isBlank c = true := by
    have all : "\t ".toList.all isBlank = true := by decide
    exact List.all_eq_true.mp all
  exact ⟨balanced, notEmpty, blank,
    (isBalanced_iff_cut_apart _).mp balanced _ _ notEmpty blank⟩

end TokenEditor.Piece
