import TokenEditor.Text.Printable

/-!
# Quoted text

A text in quotation marks, on one line, with everything that would not print written as an escape.
-/

namespace TokenEditor.Text.Quoted

def hexDigit (n : Nat) : Char := if n < 10 then Char.ofNat (48 + n) else Char.ofNat (87 + n)

def hex (n : Nat) : Nat → List Char
  | 0 => []
  | width + 1 => hex (n / 16) width ++ [hexDigit (n % 16)]

/-- The shortest of the three numeric escapes. -/
def numericEscape (code : Nat) : List Char :=
  if code < 0x100 then '\\' :: 'x' :: hex code 2
  else if code < 0x10000 then '\\' :: 'u' :: hex code 4
  else '\\' :: 'U' :: hex code 8

def escape (mark c : Char) : List Char :=
  if c = mark ∨ c = '\\' then ['\\', c]
  else if c = '\n' then ['\\', 'n']
  else if c = '\r' then ['\\', 'r']
  else if c = '\t' then ['\\', 't']
  else if isPrintable c then [c]
  else numericEscape c.toNat

/-- Apostrophes enclose a text, unless it holds one and no quotation mark. -/
def markFor (text : List Char) : Char :=
  if text.contains '\'' && !text.contains '"' then '"' else '\''

def enclose (mark : Char) (body : List Char) : String := String.ofList (mark :: body ++ [mark])

def encode (text : String) : String :=
  let mark := markFor text.toList
  enclose mark (text.toList.flatMap (escape mark))

/-- As for text, but every byte outside the basic printable ones is escaped by number. -/
def escapeByte (mark : Char) (byte : Nat) : List Char :=
  if byte < 0x7f then
    let c := Char.ofNat byte
    if byte < 0x20 ∧ c ≠ '\n' ∧ c ≠ '\r' ∧ c ≠ '\t' then numericEscape byte else escape mark c
  else numericEscape byte

def encodeBytes (bytes : List Nat) : String :=
  let mark := markFor (bytes.map Char.ofNat)
  "b" ++ enclose mark (bytes.flatMap (escapeByte mark))

end TokenEditor.Text.Quoted
