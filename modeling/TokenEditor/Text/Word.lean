import TokenEditor.Text.Letter
import TokenEditor.Text.Numeral

/-!
# Word characters

Letters, numerals and the underscore make words; `$`, `@`, `#` and `.` bind as tightly, so that
qualified names, variables and decimal numbers are one word each.
-/

namespace TokenEditor.Text

def wordJoiners : List Char := ['_', '$', '@', '#', '.']

def isWordChar (c : Char) : Bool :=
  isDigit c || isLetter c || wordJoiners.contains c || isOtherNumeral c

theorem isWordChar_of_isDigit {c : Char} (digit : isDigit c = true) : isWordChar c = true := by
  simp [isWordChar, digit]

theorem isWordChar_of_isLetter {c : Char} (letter : isLetter c = true) : isWordChar c = true := by
  simp [isWordChar, letter]

theorem isWordChar_of_isAlpha {c : Char} (alpha : c.isAlpha = true) : isWordChar c = true :=
  isWordChar_of_isLetter (isLetter_of_isAlpha alpha)

end TokenEditor.Text
