import TokenEditor.Proofs.Text.Classes

/-!
# How far a word goes

A word is the run of word characters. Only a decimal number with the letter of an exponent goes on
behind it, with a sign and a run that is made of digits. What the tests of `signedExponent` come to
is said here by the shape of the text.
-/

namespace TokenEditor.Piece

open Text

def Stops (holds : Char → Bool) (text : List Char) : Prop := text.head?.any holds = false

@[simp] theorem stops_nil (holds : Char → Bool) : Stops holds [] := rfl

@[simp] theorem stops_cons {holds : Char → Bool} {c : Char} {rest : List Char} :
    Stops holds (c :: rest) ↔ holds c = false := by
  simp [Stops]

theorem stops_dropWhile (holds : Char → Bool) (text : List Char) :
    Stops holds (text.dropWhile holds) := by
  induction text with
  | nil => rfl
  | cons c text ih => by_cases held : holds c <;> simp [held, ih]

section Spans

variable {holds : Char → Bool} {run rest : List Char}

theorem takeWhile_append_of_stops (inside : ∀ c ∈ run, holds c = true) (stops : Stops holds rest) :
    (run ++ rest).takeWhile holds = run := by
  rw [List.takeWhile_append_of_pos inside]
  cases rest with
  | nil => simp
  | cons c rest => simp [stops_cons.mp stops]

theorem dropWhile_append_of_stops (inside : ∀ c ∈ run, holds c = true) (stops : Stops holds rest) :
    (run ++ rest).dropWhile holds = rest := by
  rw [List.dropWhile_append_of_pos inside]
  cases rest with
  | nil => rfl
  | cons c rest => simp [stops_cons.mp stops]

end Spans

theorem forall_mem_takeWhile (holds : Char → Bool) (text : List Char) :
    ∀ c ∈ text.takeWhile holds, holds c = true :=
  fun _ member => List.all_eq_true.mp List.all_takeWhile _ member

theorem isDigit_eq_false_of_isWordChar {c : Char} (other : isWordChar c = false) :
    isDigit c = false := by
  cases digit : isDigit c with
  | false => rfl
  | true => simp [isWordChar_of_isDigit digit] at other

theorem ne_point_of_isWordChar {c : Char} (other : isWordChar c = false) : c ≠ '.' := by
  rintro rfl
  exact absurd other (by decide +kernel)

theorem isWordChar_of_digits {digits : List Char} (all : ∀ c ∈ digits, isDigit c = true) :
    ∀ c ∈ digits, isWordChar c = true := by
  intro c member
  exact isWordChar_of_isDigit (all c member)

theorem isDigit_point : isDigit '.' = false := by decide +kernel

/-- Digits, perhaps with a point and perhaps further digits, or a point and at least one digit. -/
inductive Mantissa : List Char → Prop
  | whole {digits : List Char} : digits ≠ [] → (∀ c ∈ digits, isDigit c = true) → Mantissa digits
  | pointed {digits fraction : List Char} : digits ≠ [] → (∀ c ∈ digits, isDigit c = true) →
      (∀ c ∈ fraction, isDigit c = true) → Mantissa (digits ++ '.' :: fraction)
  | fraction {digits : List Char} : digits ≠ [] → (∀ c ∈ digits, isDigit c = true) →
      Mantissa ('.' :: digits)

theorem Mantissa.isDigit_or_point {text : List Char} (mantissa : Mantissa text) :
    ∀ c ∈ text, isDigit c = true ∨ c = '.' := by
  cases mantissa with
  | whole _ digits => exact fun c member => .inl (digits c member)
  | pointed _ digits further =>
    refine List.forall_mem_append.mpr ⟨?_, List.forall_mem_cons.mpr ⟨.inr rfl, ?_⟩⟩
    · exact fun c member => .inl (digits c member)
    · exact fun c member => .inl (further c member)
  | fraction _ digits =>
    refine List.forall_mem_cons.mpr ⟨.inr rfl, ?_⟩
    exact fun c member => .inl (digits c member)

theorem Mantissa.isWordChar {text : List Char} (mantissa : Mantissa text) :
    ∀ c ∈ text, isWordChar c = true := by
  intro c member
  rcases mantissa.isDigit_or_point c member with digit | rfl
  · exact isWordChar_of_isDigit digit
  · decide +kernel

theorem isDecimal_iff {text : List Char} : isDecimal text = true ↔ Mantissa text := by
  constructor
  · intro decimal
    have digits := forall_mem_takeWhile isDigit text
    rw [← List.takeWhile_append_dropWhile (p := isDigit) (l := text)]
    unfold isDecimal at decimal
    split at decimal
    · rename_i none
      rw [none, List.append_nil]
      exact .whole (by simpa using decimal) digits
    · rename_i fraction point
      rw [point]
      simp only [Bool.and_eq_true, Bool.or_eq_true, List.all_eq_true] at decimal
      by_cases empty : text.takeWhile isDigit = []
      · rw [empty, List.nil_append]
        exact .fraction (by simpa [empty] using decimal.2) decimal.1
      · exact .pointed empty digits decimal.1
    · cases decimal
  · intro mantissa
    unfold isDecimal
    cases mantissa with
    | whole notNil digits =>
      have taken := takeWhile_append_of_stops digits (stops_nil isDigit)
      have left := dropWhile_append_of_stops digits (stops_nil isDigit)
      rw [List.append_nil] at taken left
      simp [taken, left, notNil]
    | @pointed _ fraction notNil digits further =>
      have stops : Stops isDigit ('.' :: fraction) := stops_cons.mpr isDigit_point
      rw [takeWhile_append_of_stops digits stops, dropWhile_append_of_stops digits stops]
      simpa [notNil] using further
    | fraction notNil digits => simpa [isDigit_point, notNil] using digits

/-- A mantissa and the letter of an exponent. -/
def Announces (word : List Char) : Prop :=
  ∃ mantissa letter, word = mantissa ++ [letter] ∧ (letter = 'e' ∨ letter = 'E') ∧ Mantissa mantissa

theorem announcesExponent_append (mantissa : List Char) (letter : Char) :
    announcesExponent (mantissa ++ [letter]) =
      ((letter == 'e' || letter == 'E') && isDecimal mantissa) := by
  simp [announcesExponent]

theorem announcesExponent_iff {word : List Char} :
    announcesExponent word = true ↔ Announces word := by
  rcases List.eq_nil_or_concat word with rfl | ⟨mantissa, letter, rfl⟩
  · simp [announcesExponent, Announces]
  · rw [List.concat_eq_append, announcesExponent_append, Bool.and_eq_true, isDecimal_iff,
      Bool.or_eq_true, beq_iff_eq, beq_iff_eq]
    constructor
    · rintro ⟨letters, decimal⟩
      exact ⟨mantissa, letter, rfl, letters, decimal⟩
    · rintro ⟨_, _, whole, letters, decimal⟩
      obtain ⟨rfl, same⟩ := List.append_inj' whole rfl
      obtain rfl := List.singleton_inj.mp same
      exact ⟨letters, decimal⟩

theorem Announces.getLast? {word : List Char} (announced : Announces word) :
    ∃ letter, word.getLast? = some letter ∧ isDigit letter = false ∧ letter ≠ '.' := by
  obtain ⟨mantissa, letter, rfl, letters, -⟩ := announced
  refine ⟨letter, by simp, ?_⟩
  rcases letters with rfl | rfl <;> decide +kernel

theorem Mantissa.not_announces {text : List Char} (mantissa : Mantissa text) :
    ¬ Announces text := by
  intro announced
  obtain ⟨letter, last, digit, point⟩ := announced.getLast?
  rcases mantissa.isDigit_or_point letter (List.mem_of_getLast? last) with held | same
  · simp [digit] at held
  · exact point same

theorem not_announces_append {front digits : List Char} (notNil : digits ≠ [])
    (all : ∀ c ∈ digits, isDigit c = true) : ¬ Announces (front ++ digits) := by
  intro announced
  obtain ⟨letter, last, digit, -⟩ := announced.getLast?
  rw [List.getLast?_append, List.getLast?_eq_some_getLast notNil, Option.some_or] at last
  have held := all _ (List.getLast_mem notNil)
  rw [Option.some.inj last, digit] at held
  cases held

/-- The letter of an exponent, perhaps a sign, and at least one digit. -/
inductive Exponent : List Char → Prop
  | unsigned {letter : Char} {digits : List Char} : letter = 'e' ∨ letter = 'E' → digits ≠ [] →
      (∀ c ∈ digits, isDigit c = true) → Exponent (letter :: digits)
  | signed {letter sign : Char} {digits : List Char} : letter = 'e' ∨ letter = 'E' →
      isSign sign = true → digits ≠ [] → (∀ c ∈ digits, isDigit c = true) →
      Exponent (letter :: sign :: digits)

theorem isWordChar_of_letter {letter : Char} (letters : letter = 'e' ∨ letter = 'E') :
    isWordChar letter = true := by
  rcases letters with rfl | rfl <;> decide +kernel

/-- Behind `word` a sign and digits follow as its exponent, and `after` is left. -/
structure Continues (word beyond : List Char) (sign : Char) (digits after : List Char) : Prop where
  announced : Announces word
  signed : isSign sign = true
  whole : beyond = sign :: (digits ++ after)
  notNil : digits ≠ []
  digits : ∀ c ∈ digits, isDigit c = true
  stops : Stops isWordChar after

theorem signedExponent_of_continues {word beyond digits after : List Char} {sign : Char}
    (continues : Continues word beyond sign digits after) :
    signedExponent word beyond = (sign :: digits, after) := by
  obtain ⟨announced, signed, rfl, notNil, all, stops⟩ := continues
  have inside := isWordChar_of_digits all
  simp only [signedExponent, takeWhile_append_of_stops inside stops,
    dropWhile_append_of_stops inside stops, signed, announcesExponent_iff.mpr announced]
  simpa [notNil] using all

theorem continues_or_signedExponent_eq (word beyond : List Char) :
    (∃ sign digits after, Continues word beyond sign digits after) ∨
      signedExponent word beyond = ([], beyond) := by
  cases beyond with
  | nil => exact .inr rfl
  | cons sign after =>
    simp only [signedExponent]
    split
    · rename_i met
      simp only [Bool.and_eq_true, Bool.not_eq_true', List.isEmpty_eq_false_iff,
        List.all_eq_true] at met
      obtain ⟨⟨⟨signed, announced⟩, notNil⟩, digits⟩ := met
      left
      refine ⟨sign, after.takeWhile isWordChar, after.dropWhile isWordChar, ?_⟩
      exact ⟨announcesExponent_iff.mp announced, signed,
        by rw [List.takeWhile_append_dropWhile], notNil, digits, stops_dropWhile _ _⟩
    · exact .inr rfl

theorem signedExponent_of_not_announces {word : List Char} (beyond : List Char)
    (silent : ¬ Announces word) : signedExponent word beyond = ([], beyond) := by
  rcases continues_or_signedExponent_eq word beyond with ⟨_, _, _, continues⟩ | none
  · exact absurd continues.announced silent
  · exact none

section Runs

variable {word beyond : List Char}

theorem wordRun_append_of_stops (inside : ∀ c ∈ word, isWordChar c = true)
    (stops : Stops isWordChar beyond) :
    wordRun (word ++ beyond) =
      (word ++ (signedExponent word beyond).1, (signedExponent word beyond).2) := by
  simp only [wordRun, takeWhile_append_of_stops inside stops,
    dropWhile_append_of_stops inside stops]

theorem wordRun_of_not_announces (inside : ∀ c ∈ word, isWordChar c = true)
    (stops : Stops isWordChar beyond) (silent : ¬ Announces word) :
    wordRun (word ++ beyond) = (word, beyond) := by
  rw [wordRun_append_of_stops inside stops, signedExponent_of_not_announces beyond silent,
    List.append_nil]

theorem Continues.stops_beyond {sign : Char} {digits after : List Char}
    (continues : Continues word beyond sign digits after) : Stops isWordChar beyond := by
  rw [continues.whole]
  exact stops_cons.mpr (isWordChar_eq_false_of_isSign continues.signed)

theorem wordRun_of_continues {sign : Char} {digits after : List Char}
    (inside : ∀ c ∈ word, isWordChar c = true)
    (continues : Continues word beyond sign digits after) :
    wordRun (word ++ beyond) = (word ++ sign :: digits, after) := by
  rw [wordRun_append_of_stops inside continues.stops_beyond,
    signedExponent_of_continues continues]

theorem wordRun_of_number {mantissa exponent rest : List Char} (decimal : Mantissa mantissa)
    (raised : exponent = [] ∨ Exponent exponent) (stops : Stops isWordChar rest) :
    wordRun (mantissa ++ exponent ++ rest) = (mantissa ++ exponent, rest) := by
  rcases raised with rfl | raised
  · rw [List.append_nil]
    exact wordRun_of_not_announces decimal.isWordChar stops decimal.not_announces
  · cases raised with
    | @unsigned letter digits letters notNil all =>
      apply wordRun_of_not_announces _ stops
      · have split : mantissa ++ letter :: digits = (mantissa ++ [letter]) ++ digits := by simp
        rw [split]
        exact not_announces_append notNil all
      · refine List.forall_mem_append.mpr ⟨decimal.isWordChar, ?_⟩
        exact List.forall_mem_cons.mpr ⟨isWordChar_of_letter letters, isWordChar_of_digits all⟩
    | @signed letter sign digits letters signed notNil all =>
      have inside : ∀ c ∈ mantissa ++ [letter], isWordChar c = true := by
        refine List.forall_mem_append.mpr ⟨decimal.isWordChar, ?_⟩
        exact List.forall_mem_singleton.mpr (isWordChar_of_letter letters)
      have continues :
          Continues (mantissa ++ [letter]) (sign :: (digits ++ rest)) sign digits rest :=
        ⟨⟨mantissa, letter, rfl, letters, decimal⟩, signed, rfl, notNil, all, stops⟩
      simpa using wordRun_of_continues inside continues

end Runs

end TokenEditor.Piece
