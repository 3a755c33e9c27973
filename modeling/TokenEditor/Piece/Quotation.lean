/-!
# Quotations

A quotation opens with one of three marks and is read in units: a backslash with the character after
it, the mark twice, or any one other character. It ends after the first mark that stands alone. A
text without such a mark is a quotation to its end, unless it ends in a backslash with nothing to
protect: then the last mark written twice ends it after all, and if there is none, there is no
quotation here.
-/

namespace TokenEditor.Piece

/-- The apostrophe, the quotation mark and the grave accent. -/
def quotationMarks : List Char := ['\'', '"', '\x60']

def isMark (c : Char) : Bool := quotationMarks.contains c

/-- The rest of a quotation opened by `mark` and what follows it. -/
def quotation? (mark : Char) : List Char → Option (List Char × List Char)
  | [] => some ([], [])
  | [c] => if c = '\\' then none else some ([c], [])
  | c :: d :: rest =>
      if c = '\\' then (quotation? mark rest).map fun (inside, after) => (c :: d :: inside, after)
      else if c = mark then
        if d = mark then
          match quotation? mark rest with
          | some (inside, after) => some (c :: d :: inside, after)
          | none => some ([c], d :: rest)
        else some ([c], d :: rest)
      else (quotation? mark (d :: rest)).map fun (inside, after) => (c :: inside, after)

theorem quotation?_append {mark : Char} {text inside after : List Char}
    (read : quotation? mark text = some (inside, after)) : inside ++ after = text := by
  fun_induction quotation? mark text generalizing inside after with
  | case1 => simp_all
  | case2 => simp at read
  | case3 => simp_all
  | case4 d rest ih =>
    obtain ⟨⟨more, left⟩, found, same⟩ := Option.map_eq_some_iff.mp read
    obtain ⟨rfl, rfl⟩ := Prod.mk.inj same
    simp [ih found]
  | case5 rest more left found _ ih =>
    obtain ⟨rfl, rfl⟩ := Prod.mk.inj (Option.some.inj read)
    simp [ih found]
  | case6 | case7 =>
    obtain ⟨rfl, rfl⟩ := Prod.mk.inj (Option.some.inj read)
    rfl
  | case8 c d rest _ _ ih =>
    obtain ⟨⟨more, left⟩, found, same⟩ := Option.map_eq_some_iff.mp read
    obtain ⟨rfl, rfl⟩ := Prod.mk.inj same
    simp [ih found]

end TokenEditor.Piece
