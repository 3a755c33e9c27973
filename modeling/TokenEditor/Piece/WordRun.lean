import TokenEditor.Text.Word

/-!
# Words

A word is the longest run of word characters, with one exception: a decimal number in exponent form
takes its signed exponent along, when that is a run of digits only.
-/

namespace TokenEditor.Piece

open Text

/-- Digits with at most one point among them, which may not stand alone. -/
def isDecimal (text : List Char) : Bool :=
  match text.takeWhile isDigit, text.dropWhile isDigit with
  | whole, [] => !whole.isEmpty
  | whole, '.' :: fraction => fraction.all isDigit && (!whole.isEmpty || !fraction.isEmpty)
  | _, _ => false

/-- A decimal number followed by the letter that announces an exponent. -/
def announcesExponent (word : List Char) : Bool :=
  match word.getLast? with
  | some c => (c == 'e' || c == 'E') && isDecimal word.dropLast
  | none => false

def isSign (c : Char) : Bool := c == '+' || c == '-'

/-- The signed exponent that `rest` begins with, when `word` announces one, and what follows it. -/
def signedExponent (word rest : List Char) : List Char × List Char :=
  match rest with
  | [] => ([], [])
  | sign :: after =>
      let exponent := after.takeWhile isWordChar
      if isSign sign && announcesExponent word && !exponent.isEmpty && exponent.all isDigit then
        (sign :: exponent, after.dropWhile isWordChar)
      else ([], sign :: after)

theorem signedExponent_append (word rest : List Char) :
    (signedExponent word rest).1 ++ (signedExponent word rest).2 = rest := by
  cases rest with
  | nil => rfl
  | cons sign after =>
    simp only [signedExponent]
    split
    · rw [List.cons_append, List.takeWhile_append_dropWhile]
    · rfl

/-- The word that `text` begins with, and what follows it. -/
def wordRun (text : List Char) : List Char × List Char :=
  let word := text.takeWhile isWordChar
  let (exponent, after) := signedExponent word (text.dropWhile isWordChar)
  (word ++ exponent, after)

theorem wordRun_append (text : List Char) : (wordRun text).1 ++ (wordRun text).2 = text := by
  simp only [wordRun, List.append_assoc, signedExponent_append, List.takeWhile_append_dropWhile]

theorem wordRun_fst_cons {c : Char} (rest : List Char) (starts : isWordChar c = true) :
    ∃ more, (wordRun (c :: rest)).1 = c :: more := by
  simp [wordRun, starts]

end TokenEditor.Piece
