import TokenEditor.Text.Spans

/-!
# Blanks

The characters that separate tokens and are part of none.
-/

namespace TokenEditor.Text

def blankSpans : List Span :=
  [(0x9, 0xd), (0x1c, 0x20), (0x85, 0x85), (0xa0, 0xa0), (0x1680, 0x1680), (0x2000, 0x200a),
   (0x2028, 0x2029), (0x202f, 0x202f), (0x205f, 0x205f), (0x3000, 0x3000)]

def isBlank (c : Char) : Bool := inSpans c.toNat blankSpans

theorem isBlank_space : isBlank ' ' = true := by decide

end TokenEditor.Text
