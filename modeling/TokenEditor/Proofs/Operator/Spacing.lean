import TokenEditor.Proofs.Workspace.Rendering

/-!
# Operators between names

An operator of punctuation is told from the names around it by its characters, so it needs no spaces
beside them. This fails for the operators in which there is a word character: written without
spaces, that character is taken for a part of the name that it touches.
-/

namespace TokenEditor

open Text

namespace Piece

/-- What is a piece of its own wherever it stands outside of quotations. -/
def isSymbol (c : Char) : Bool := !isMark c && !isBlank c && !isWordChar c

theorem isSymbol_iff {c : Char} :
    isSymbol c = true ↔ isMark c = false ∧ isBlank c = false ∧ isWordChar c = false := by
  simp [isSymbol, and_assoc]

section Cutting

variable {run rest : List Char}

theorem cut_symbols_append (rest : List Char) (symbols : ∀ c ∈ run, isSymbol c = true) :
    cut (run ++ rest) = cut run ++ cut rest := by
  induction run with
  | nil => rw [cut_nil, List.nil_append, List.nil_append]
  | cons c run ih =>
    obtain ⟨unmarked, visible, other⟩ := isSymbol_iff.mp (symbols c (by simp))
    have behind := ih fun d member => symbols d (by simp [member])
    rw [List.cons_append, cut_cons _ visible, cut_cons _ visible, first_of_symbol unmarked other,
      first_of_symbol unmarked other, behind, List.cons_append]

theorem cut_word_append (notNil : run ≠ []) (inside : ∀ c ∈ run, isWordChar c = true)
    (silent : ¬ Announces run) (stops : Stops isWordChar rest) :
    cut (run ++ rest) = run :: cut rest := by
  have whole := wordRun_of_not_announces inside stops silent
  obtain ⟨c, more, rfl⟩ := List.exists_cons_of_ne_nil notNil
  have starts : isWordChar c = true := inside c (by simp)
  rw [List.cons_append, cut_cons _ (isBlank_eq_false_of_isWordChar starts), first_of_word starts,
    ← List.cons_append, whole]

theorem cut_word (notNil : run ≠ []) (inside : ∀ c ∈ run, isWordChar c = true) :
    cut run = [run] := by
  have whole := wordRun_append_of_stops inside (stops_nil isWordChar)
  obtain ⟨c, more, rfl⟩ := List.exists_cons_of_ne_nil notNil
  have starts : isWordChar c = true := inside c (by simp)
  rw [List.append_nil] at whole
  rw [cut_cons _ (isBlank_eq_false_of_isWordChar starts), first_of_word starts, whole]
  simp [signedExponent]

theorem exists_cut_cons (rest : List Char) (notNil : run ≠ [])
    (inside : ∀ c ∈ run, isWordChar c = true) :
    ∃ piece pieces, cut (run ++ rest) = piece :: pieces ∧ run <+: piece := by
  obtain ⟨c, more, rfl⟩ := List.exists_cons_of_ne_nil notNil
  have starts : isWordChar c = true := inside c (by simp)
  rw [List.cons_append, cut_cons _ (isBlank_eq_false_of_isWordChar starts), first_of_word starts,
    ← List.cons_append]
  refine ⟨_, _, rfl, ?_⟩
  simp only [wordRun, List.takeWhile_append_of_pos inside, List.append_assoc]
  exact List.prefix_append _ _

end Cutting

end Piece

namespace Operator

open Piece

/-- Basic letters, and at least one of them. -/
structure IsName (word : String) : Prop where
  notEmpty : word ≠ ""
  letters : ∀ c ∈ word.toList, c.isAlpha = true

namespace IsName

variable {name : String}

theorem toList_ne_nil (isName : IsName name) : name.toList ≠ [] :=
  fun empty => isName.notEmpty (String.toList_eq_nil_iff.mp empty)

theorem isWordChar (isName : IsName name) : ∀ c ∈ name.toList, Text.isWordChar c = true :=
  fun c member => isWordChar_of_isAlpha (isName.letters c member)

theorem balanced (isName : IsName name) : Balanced name.toList :=
  balanced_of_plain fun c member => isMark_eq_false_of_isWordChar (isName.isWordChar c member)

theorem not_announces (isName : IsName name) : ¬ Announces name.toList := by
  rintro ⟨mantissa, letter, whole, -, decimal⟩
  have digitOrPoint := decimal.isDigit_or_point
  have letters := isName.letters
  rw [whole] at letters
  cases mantissa with
  | nil =>
    have nothing := isDecimal_iff.mpr decimal
    exact absurd nothing (by decide)
  | cons c mantissa =>
    have first : c.isAlpha = true := letters c (by simp)
    rcases digitOrPoint c (by simp) with digit | rfl
    · rw [isDigit_eq_false_of_isAlpha first] at digit
      cases digit
    · exact absurd first (by decide +kernel)

theorem cut_append (isName : IsName name) {rest : List Char} (stops : Stops Text.isWordChar rest) :
    cut (name.toList ++ rest) = name.toList :: cut rest :=
  cut_word_append isName.toList_ne_nil isName.isWordChar isName.not_announces stops

theorem cut_self (isName : IsName name) : cut name.toList = [name.toList] :=
  cut_word isName.toList_ne_nil isName.isWordChar

end IsName

theorem isSymbol_or_isWordChar_of_mem_symbols {operator : String} (known : operator ∈ symbols) :
    ∀ c ∈ operator.toList, isSymbol c = true ∨ Text.isWordChar c = true := by
  have each : ∀ operator ∈ symbols,
      (operator.toList.all fun c => isSymbol c || Text.isWordChar c) = true := by decide +kernel
  intro c member
  simpa using List.all_eq_true.mp (each operator known) c member

/-- The operators of punctuation in which there is a word character. -/
def mixed : List String := ["#>", "#>>", "@>", "<@", "@@"]

theorem mem_mixed_iff {operator : String} (known : operator ∈ symbols) :
    operator ∈ mixed ↔ ∃ c ∈ operator.toList, Text.isWordChar c = true := by
  have each : ∀ operator ∈ symbols,
      decide (operator ∈ mixed) = operator.toList.any Text.isWordChar := by decide +kernel
  rw [← List.any_eq_true, ← each operator known, decide_eq_true_iff]

/-- All operators of punctuation with a word character in them but one begin with it. -/
theorem eq_or_exists_cons_of_mem_symbols {operator : String} (known : operator ∈ symbols)
    (word : ∃ c ∈ operator.toList, Text.isWordChar c = true) :
    operator = "<@" ∨ ∃ c rest, operator.toList = c :: rest ∧ Text.isWordChar c = true := by
  have each : ∀ operator ∈ symbols, operator.toList.any Text.isWordChar = true →
      operator = "<@" ∨ (operator.toList.head?.any Text.isWordChar) = true := by decide +kernel
  rcases each operator known (List.any_eq_true.mpr word) with same | begins
  · exact .inl same
  · right
    cases chars : operator.toList with
    | nil => simp [chars] at begins
    | cons c rest => exact ⟨c, rest, rfl, by simpa [chars] using begins⟩

/-- There is something in a text that is neither a basic letter nor a space. -/
def Punctuated (text : String) : Prop := ∃ c ∈ text.toList, c.isAlpha = false ∧ c ≠ ' '

theorem punctuated_of_isPrefix_of_mem_symbols {piece operator : String}
    (known : operator ∈ symbols) (notEmpty : piece ≠ "")
    (begins : piece.toList <+: operator.toList) : Punctuated piece := by
  have each : ∀ operator ∈ symbols,
      (operator.toList.all fun c => !c.isAlpha && c != ' ') = true := by decide +kernel
  have notNil : piece.toList ≠ [] := fun empty => notEmpty (String.toList_eq_nil_iff.mp empty)
  obtain ⟨c, rest, chars⟩ := List.exists_cons_of_ne_nil notNil
  have member : c ∈ piece.toList := by simp [chars]
  refine ⟨c, member, ?_⟩
  simpa using List.all_eq_true.mp (each operator known) c (begins.subset member)

/-- An operator with a basic letter in it is made of these and spaces. -/
theorem isStock_eq_false_of_punctuated {spelling : String} {c : Char}
    (letter : c.isAlpha = true) (member : c ∈ spelling.toList) (punctuated : Punctuated spelling) :
    isStock spelling = false := by
  have each : ∀ operator ∈ stock, operator.toList.any Char.isAlpha = true →
      (operator.toList.all fun c => c.isAlpha || c == ' ') = true := by decide +kernel
  apply Bool.eq_false_iff.mpr
  intro known
  obtain ⟨d, inside, other, notSpace⟩ := punctuated
  have plain := each spelling (isStock_iff.mp known) (List.any_eq_true.mpr ⟨c, member, letter⟩)
  have shown := List.all_eq_true.mp plain d inside
  simp [other, notSpace] at shown

namespace IsName

variable {name other spelling : String} (isName : IsName name) (punctuated : Punctuated other)

include isName punctuated

theorem isStock_eq_false (hasName : name.toList ⊆ spelling.toList)
    (hasOther : other.toList ⊆ spelling.toList) : isStock spelling = false := by
  obtain ⟨c, rest, chars⟩ := List.exists_cons_of_ne_nil isName.toList_ne_nil
  have member : c ∈ name.toList := by simp [chars]
  obtain ⟨d, inside, apart⟩ := punctuated
  apply isStock_eq_false_of_punctuated (isName.letters c member) (hasName member)
  exact ⟨d, hasOther inside, apart⟩

theorem ends_before (rest : List String) : Ends isStock name (other :: rest) := by
  apply ends_cons.mpr
  apply join?_eq_none_iff.mpr
  constructor
  · apply isName.isStock_eq_false punctuated <;> simp
  · apply isName.isStock_eq_false punctuated <;> simp

theorem ends_behind {piece : String} (hasName : name.toList ⊆ piece.toList) (rest : List String) :
    Ends isStock other (piece :: rest) := by
  apply ends_cons.mpr
  apply join?_eq_none_iff.mpr
  constructor
  · apply isName.isStock_eq_false punctuated
    · intro c member
      simp [hasName member]
    · simp
  · apply isName.isStock_eq_false punctuated
    · intro c member
      simp [hasName member]
    · simp

end IsName

section Between

variable {operator left right : String} (leftName : IsName left) (rightName : IsName right)

include leftName rightName

/-- With a word character at its end, an operator loses it to the name behind it. -/
theorem fuse_pieces_of_word_behind :
    fuse isStock (pieces (left ++ "<@" ++ right)) = [left, "<", "@" ++ right] := by
  have symbols : ∀ c ∈ ['<'], isSymbol c = true :=
    List.forall_mem_singleton.mpr (by decide +kernel)
  have inside : ∀ c ∈ '@' :: right.toList, Text.isWordChar c = true :=
    List.forall_mem_cons.mpr ⟨by decide +kernel, rightName.isWordChar⟩
  have stops : Stops Text.isWordChar (['<'] ++ '@' :: right.toList) :=
    stops_cons.mpr (by decide +kernel)
  have whole : (left ++ "<@" ++ right).toList =
      left.toList ++ (['<'] ++ '@' :: right.toList) := by simp
  have cuts : pieces (left ++ "<@" ++ right) = [left, "<", "@" ++ right] := by
    have single : cut ['<'] = [['<']] := by decide +kernel
    rw [pieces, whole, leftName.cut_append stops, cut_symbols_append _ symbols, single,
      cut_word (by simp) inside]
    simp [String.ofList_cons]
  have punctuated : Punctuated "<" := ⟨'<', by simp, by decide⟩
  -- The sign that is left would be fused again with the rest, were there no name behind that.
  have ends : Ends isStock "<" ["@" ++ right] := by
    apply rightName.ends_behind punctuated
    intro c member
    simp [member]
  have grouping : Grouping isStock [[left], ["<"], ["@" ++ right]] [left, "<", "@" ++ right] :=
    .cons .done (leftName.ends_before punctuated _)
      (.cons .done ends (.cons .done (ends_nil _) .nil))
  rw [cuts]
  exact grouping.fuse_eq

variable (known : operator ∈ symbols)

include known

/-- The pieces of an operator are fused again between two names. -/
theorem fuse_between_names :
    fuse isStock (left :: (pieces operator ++ [right])) = [left, operator, right] := by
  have stocked : operator ∈ stock := List.mem_append_left _ known
  obtain ⟨groups, whole, grouping⟩ := exists_grouping_fuse isStock (pieces operator)
  rw [fuse_pieces_of_mem_stock stocked] at grouping
  cases grouping with
  | @cons first _ rest _ _ grows _ none =>
    cases none
    rw [List.flatten_singleton] at whole
    have notEmpty : first ≠ "" := ne_empty_of_mem_pieces operator first (by simp [← whole])
    have punctuated : Punctuated first :=
      punctuated_of_isPrefix_of_mem_symbols known notEmpty grows.isPrefix
    have punctuation : Punctuated operator :=
      punctuated_of_isPrefix_of_mem_symbols known (grows.ne_empty notEmpty) (List.prefix_refl _)
    have last : Grouping isStock [[right]] [right] := .cons .done (ends_nil right) .nil
    have later : Grouping isStock [first :: rest, [right]] [operator, right] :=
      .cons grows (rightName.ends_behind punctuation (List.Subset.refl _) _) last
    have all : Grouping isStock [[left], first :: rest, [right]] [left, operator, right] :=
      .cons .done (leftName.ends_before punctuated _) later
    rw [← whole]
    exact all.fuse_eq

theorem fuse_pieces_of_spaced :
    fuse isStock (pieces (left ++ " " ++ operator ++ " " ++ right)) = [left, operator, right] := by
  have balanced : ∀ token ∈ [left, operator, right].dropLast, Balanced token.toList := by
    intro token member
    rcases List.mem_pair.mp member with rfl | rfl
    · exact leftName.balanced
    · exact balanced_of_mem_stock (List.mem_append_left _ known)
  have written : left ++ " " ++ operator ++ " " ++ right =
      Entries.spaced [left, operator, right] := by
    simp [Entries.spaced, String.append_assoc]
  rw [written, pieces_spaced balanced, List.map_cons, List.map_cons, List.map_singleton,
    pieces_of_cut leftName.cut_self, pieces_of_cut rightName.cut_self]
  exact fuse_between_names leftName rightName known

theorem fuse_pieces_of_tight (plain : ∀ c ∈ operator.toList, Text.isWordChar c = false) :
    fuse isStock (pieces (left ++ operator ++ right)) = [left, operator, right] := by
  have isSymbols : ∀ c ∈ operator.toList, isSymbol c = true := by
    intro c member
    rcases isSymbol_or_isWordChar_of_mem_symbols known c member with symbol | word
    · exact symbol
    · rw [plain c member] at word
      cases word
  have notNil : operator.toList ≠ [] := by
    have each : ∀ operator ∈ symbols, operator.toList ≠ [] := by decide +kernel
    exact each operator known
  have stops : Stops Text.isWordChar (operator.toList ++ right.toList) := by
    obtain ⟨c, rest, chars⟩ := List.exists_cons_of_ne_nil notNil
    rw [chars, List.cons_append]
    exact stops_cons.mpr (plain c (by simp [chars]))
  have cuts : pieces (left ++ operator ++ right) = left :: (pieces operator ++ [right]) := by
    rw [pieces, String.toList_append, String.toList_append, List.append_assoc,
      leftName.cut_append stops, cut_symbols_append _ isSymbols, rightName.cut_self]
    simp [pieces]
  rw [cuts]
  exact fuse_between_names leftName rightName known

/-- A word character at the beginning of an operator belongs to the name before it, and one at its
end to the name behind it. -/
theorem fuse_pieces_ne_of_word (word : ∃ c ∈ operator.toList, Text.isWordChar c = true) :
    fuse isStock (pieces (left ++ operator ++ right)) ≠ [left, operator, right] := by
  intro fused
  rcases eq_or_exists_cons_of_mem_symbols known word with rfl | ⟨c, rest, chars, begins⟩
  · rw [fuse_pieces_of_word_behind leftName rightName] at fused
    simp at fused
  · have inside : ∀ d ∈ left.toList ++ [c], Text.isWordChar d = true :=
      List.forall_mem_append.mpr ⟨leftName.isWordChar, List.forall_mem_singleton.mpr begins⟩
    obtain ⟨piece, others, cuts, front⟩ :=
      exists_cut_cons (rest ++ right.toList) (by simp) inside
    have whole : (left ++ operator ++ right).toList =
        left.toList ++ [c] ++ (rest ++ right.toList) := by simp [chars]
    obtain ⟨token, tokens, first, grown⟩ :=
      exists_fuse_cons isStock (String.ofList piece) (others.map String.ofList)
    rw [pieces, whole, cuts, List.map_cons, first] at fused
    obtain ⟨rfl, -⟩ := List.cons.inj fused
    rw [String.toList_ofList] at grown
    have longer := (front.trans grown).length_le
    rw [List.length_append, List.length_singleton] at longer
    exact absurd longer (Nat.not_succ_le_self _)

/-- Between two names an operator is found where spaces are written beside it. Without them it is
found just where there is no word character in it. -/
theorem tokens_between_names (host : Host) (view : View) :
    (Lexer.standard.tokens host view
        (.text (left ++ " " ++ operator ++ " " ++ right))).answer = .ok [left, operator, right] ∧
      ((Lexer.standard.tokens host view (.text (left ++ operator ++ right))).answer =
          .ok [left, operator, right] ↔ operator ∉ mixed) := by
  rw [Lexer.tokens_standard, Lexer.tokens_standard, fuse_pieces_of_spaced leftName rightName known]
  refine ⟨rfl, ?_, ?_⟩
  · intro found word
    apply fuse_pieces_ne_of_word leftName rightName known ((mem_mixed_iff known).mp word)
    exact Except.ok.inj found
  · intro unmixed
    have plain : ∀ c ∈ operator.toList, Text.isWordChar c = false := by
      intro c member
      apply Bool.eq_false_iff.mpr
      intro word
      exact unmixed ((mem_mixed_iff known).mpr ⟨c, member, word⟩)
    exact congrArg Except.ok (fuse_pieces_of_tight leftName rightName known plain)

end Between

theorem tokens_between_names_like_keywords :
    let host : Host := ⟨fun _ => .ok, fun _ _ => .ok⟩
    let lexed := fun text => (Lexer.standard.tokens host View.empty (.text text)).answer
    ("!~*" ∈ symbols ∧ "#>>" ∈ symbols ∧ IsName "IS" ∧ IsName "NOT") ∧
      lexed "IS!~*NOT" = .ok ["IS", "!~*", "NOT"] ∧
      lexed "IS #>> NOT" = .ok ["IS", "#>>", "NOT"] ∧
      lexed "IS#>>NOT" ≠ .ok ["IS", "#>>", "NOT"] := by
  intro host lexed
  have left : IsName "IS" := ⟨by decide, by simp⟩
  have right : IsName "NOT" := ⟨by decide, by simp⟩
  have plain : "!~*" ∈ symbols := by decide
  have arrow : "#>>" ∈ symbols := by decide
  obtain ⟨-, tight⟩ := tokens_between_names left right plain host View.empty
  obtain ⟨spaced, tightly⟩ := tokens_between_names left right arrow host View.empty
  refine ⟨⟨plain, arrow, left, right⟩, ?_, spaced, ?_⟩
  · apply tight.mpr
    decide
  · intro found
    exact absurd (by decide) (tightly.mp found)

/-- Two signs between names make one word with them, although by themselves they are an operator. -/
theorem tokens_of_signs_between_names :
    "@@" ∈ symbols ∧
      (Lexer.standard.tokens ⟨fun _ => .ok, fun _ _ => .ok⟩ View.empty (.text "a@@b")).answer =
        .ok ["a@@b"] := by
  refine ⟨by decide, ?_⟩
  rw [Lexer.tokens_standard]
  exact congrArg Except.ok (by decide +kernel : fuse isStock (pieces "a@@b") = ["a@@b"])

end Operator

end TokenEditor
