import TokenEditor.Text.Blank
import TokenEditor.Piece.Quotation
import TokenEditor.Piece.WordRun

/-!
# Cutting a text into pieces

Blanks only separate. A mark opens a quotation, a word character a word, and any other character is
a piece of its own, as is a mark that opens no quotation.
-/

namespace TokenEditor.Piece

open Text

/-- The piece that begins with `c`, and what follows it. -/
def first (c : Char) (rest : List Char) : List Char × List Char :=
  if isMark c then
    match quotation? c rest with
    | some (inside, after) => (c :: inside, after)
    | none => ([c], rest)
  else if isWordChar c then wordRun (c :: rest)
  else ([c], rest)

theorem first_append (c : Char) (rest : List Char) :
    (first c rest).1 ++ (first c rest).2 = c :: rest := by
  unfold first
  split
  · split
    · rename_i read
      simp [quotation?_append read]
    · rfl
  · split
    · exact wordRun_append (c :: rest)
    · rfl

theorem first_fst_cons (c : Char) (rest : List Char) : ∃ more, (first c rest).1 = c :: more := by
  unfold first
  split
  · split <;> simp
  · split
    · exact wordRun_fst_cons rest ‹_›
    · simp

theorem length_first_snd_le (c : Char) (rest : List Char) :
    (first c rest).2.length ≤ rest.length := by
  obtain ⟨more, begins⟩ := first_fst_cons c rest
  have whole := congrArg List.length (first_append c rest)
  simp [begins] at whole
  omega

def cut : List Char → List (List Char)
  | [] => []
  | c :: rest =>
      if isBlank c then cut rest
      else (first c rest).1 :: cut (first c rest).2
termination_by text => text.length
decreasing_by
  · simp
  · have := length_first_snd_le c rest
    simp
    omega

@[simp] theorem cut_nil : cut [] = [] := by simp [cut]

theorem cut_blank {c : Char} (rest : List Char) (blank : isBlank c = true) :
    cut (c :: rest) = cut rest := by
  rw [cut]
  simp [blank]

theorem cut_cons {c : Char} (rest : List Char) (visible : isBlank c = false) :
    cut (c :: rest) = (first c rest).1 :: cut (first c rest).2 := by
  rw [cut]
  simp [visible]

def pieces (text : String) : List String := (cut text.toList).map String.ofList

end TokenEditor.Piece
