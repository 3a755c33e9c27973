import TokenEditor.Piece.Cutting

/-!
# Classes of characters apart

Blanks, quotation marks, signs and word characters have nothing in common, and a backslash is none
of them; among word characters, no basic letter is a digit. The classes that are lists of spans are
compared span by span.
-/

namespace TokenEditor.Text

/-- Whether no code point lies in a span of the one list and in a span of the other. -/
def areDisjoint (spans others : List Span) : Bool :=
  spans.all fun span => others.all fun other => span.2 < other.1 || other.2 < span.1

theorem inSpans_eq_false_of_areDisjoint (spans : List Span) {code : Nat} {others : List Span}
    (disjoint : areDisjoint spans others = true) (held : inSpans code spans = true) :
    inSpans code others = false := by
  apply Bool.eq_false_iff.mpr
  intro shared
  obtain ⟨span, member, above, below⟩ := exists_span_of_inSpans held
  obtain ⟨other, otherMember, otherAbove, otherBelow⟩ := exists_span_of_inSpans shared
  have separate := List.all_eq_true.mp (List.all_eq_true.mp disjoint span member) other otherMember
  simp only [Bool.or_eq_true, decide_eq_true_eq] at separate
  omega

theorem eq_false_of_all_not {p : Char → Bool} {members : List Char} {c : Char}
    (each : (members.all fun d => !p d) = true) (member : c ∈ members) : p c = false := by
  have this := List.all_eq_true.mp each c member
  simpa using this

theorem isWordChar_eq_false_of_isBlank {c : Char} (blank : isBlank c = true) :
    isWordChar c = false := by
  have digit : isDigit c = false :=
    inSpans_eq_false_of_areDisjoint blankSpans (by decide +kernel) blank
  have letter : isLetter c = false :=
    inSpans_eq_false_of_areDisjoint blankSpans (by decide +kernel) blank
  have numeral : isOtherNumeral c = false :=
    inSpans_eq_false_of_areDisjoint blankSpans (by decide +kernel) blank
  have joiner : c ∉ wordJoiners := by
    intro member
    have visible : isBlank c = false := eq_false_of_all_not (by decide +kernel) member
    rw [visible] at blank
    cases blank
  simp [isWordChar, digit, letter, numeral, joiner]

theorem isDigit_eq_false_of_isAlpha {c : Char} (alpha : c.isAlpha = true) : isDigit c = false := by
  delta Char.isAlpha Char.isUpper Char.isLower at alpha
  have bounds : 0x39 < c.toNat ∧ c.toNat < 0x660 := by
    simp only [Bool.or_eq_true, Bool.and_eq_true, decide_eq_true_eq,
      UInt32.le_iff_toNat_le] at alpha
    change (0x41 ≤ c.toNat ∧ c.toNat ≤ 0x5a) ∨ (0x61 ≤ c.toNat ∧ c.toNat ≤ 0x7a) at alpha
    omega
  have behind : ¬ c.toNat < 0x30 := by omega
  have beyond : ¬ c.toNat ≤ 0x39 := Nat.not_le.mpr bounds.1
  simp [isDigit, digitSpans, inSpans, furtherDigitSpans, behind, beyond, bounds.2]

theorem apart_symm {p q : Char → Bool} {c : Char} (apart : p c = true → q c = false)
    (held : q c = true) : p c = false := by
  cases other : p c with
  | false => rfl
  | true => exact absurd (apart other) (by simp [held])

theorem isBlank_eq_false_of_isWordChar {c : Char} (word : isWordChar c = true) :
    isBlank c = false :=
  apart_symm isWordChar_eq_false_of_isBlank word

end TokenEditor.Text

namespace TokenEditor.Piece

open Text

theorem mem_quotationMarks_of_isMark {c : Char} (mark : isMark c = true) : c ∈ quotationMarks := by
  simpa [isMark] using mark

theorem isWordChar_eq_false_of_isMark {c : Char} (mark : isMark c = true) :
    isWordChar c = false :=
  eq_false_of_all_not (by decide +kernel) (mem_quotationMarks_of_isMark mark)

theorem isBlank_eq_false_of_isMark {c : Char} (mark : isMark c = true) : isBlank c = false :=
  eq_false_of_all_not (by decide +kernel) (mem_quotationMarks_of_isMark mark)

theorem ne_backslash_of_isMark {c : Char} (mark : isMark c = true) : c ≠ '\\' := by
  have unmarked : isMark '\\' = false := by decide
  intro same
  rw [same, unmarked] at mark
  cases mark

theorem isMark_eq_false_of_isWordChar {c : Char} (word : isWordChar c = true) :
    isMark c = false :=
  apart_symm isWordChar_eq_false_of_isMark word

theorem isMark_eq_false_of_isBlank {c : Char} (blank : isBlank c = true) : isMark c = false :=
  apart_symm isBlank_eq_false_of_isMark blank

theorem isSign_iff {c : Char} : isSign c = true ↔ c = '+' ∨ c = '-' := by
  simp [isSign]

theorem isWordChar_eq_false_of_isSign {c : Char} (sign : isSign c = true) :
    isWordChar c = false := by
  rcases isSign_iff.mp sign with rfl | rfl <;> decide +kernel

theorem isMark_eq_false_of_isSign {c : Char} (sign : isSign c = true) : isMark c = false := by
  rcases isSign_iff.mp sign with rfl | rfl <;> decide

theorem isBlank_eq_false_of_isSign {c : Char} (sign : isSign c = true) : isBlank c = false := by
  rcases isSign_iff.mp sign with rfl | rfl <;> decide

theorem isSign_eq_false_of_isBlank {c : Char} (blank : isBlank c = true) : isSign c = false :=
  apart_symm isBlank_eq_false_of_isSign blank

end TokenEditor.Piece
