import TokenEditor.Text.Case

/-!
# The stock operators

Operators of punctuation, and operators of several words in capital and in small letters. Every
operator of more than two pieces has its beginning in the table too, because fusing looks at one
token at a time.
-/

namespace TokenEditor.Operator

def symbols : List String :=
  ["=", "==", "!=", "<>", "<", "<=", ">", ">=", "||", "&&", "::", "!~", "~*", "!~*", "<<", ">>",
   "~=", "->", "->>", "#>", "#>>", "@>", "<@", "@@", "&<", "&>"]

def keywords : List String :=
  ["IS NOT", "NOT IN", "NOT LIKE", "NOT ILIKE", "NOT BETWEEN", "NOT EXISTS"]

/-- The two forms in which a keyword is known; a mixture of cases is neither. -/
def casings (keyword : String) : List String := [Text.Case.upper keyword, Text.Case.lower keyword]

def keywordSpellings (keywords : List String) : List String := (keywords.flatMap casings).eraseDups

/-- The operators that a lexer knows unless it is told others. -/
def stock : List String := symbols ++ keywordSpellings keywords

def isStock (spelling : String) : Bool := stock.contains spelling

def sorted (spellings : List String) : List String := spellings.mergeSort (fun a b => a ≤ b)

end TokenEditor.Operator
