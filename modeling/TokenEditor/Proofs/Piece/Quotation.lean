import TokenEditor.Proofs.Text.Classes

/-!
# How far a quotation goes

After its opening mark a text closes a quotation, or is its body to the end, or dangles: then a
backslash is left over at the end. The three exclude each other, and each fixes what `quotation?`
reads.
-/

namespace TokenEditor.Piece

open Text

/-- Whole units of a quotation: a backslash and what it protects, the mark twice, or any other
character. -/
inductive Body (mark : Char) : List Char → Prop
  | nil : Body mark []
  | escaped {rest : List Char} (c : Char) : Body mark rest → Body mark ('\\' :: c :: rest)
  | doubled {rest : List Char} : Body mark rest → Body mark (mark :: mark :: rest)
  | plain {c : Char} {rest : List Char} :
      c ≠ mark → c ≠ '\\' → Body mark rest → Body mark (c :: rest)

/-- Whole units among which the mark is never written twice. -/
inductive Unpaired (mark : Char) : List Char → Prop
  | nil : Unpaired mark []
  | escaped {rest : List Char} (c : Char) : Unpaired mark rest → Unpaired mark ('\\' :: c :: rest)
  | plain {c : Char} {rest : List Char} :
      c ≠ mark → c ≠ '\\' → Unpaired mark rest → Unpaired mark (c :: rest)

/-- After `body` a single mark ends the quotation, and `after` is left. -/
structure Closes (mark : Char) (text body after : List Char) : Prop where
  whole : text = body ++ mark :: after
  units : Body mark body
  alone : after.head? ≠ some mark

/-- Whole units lead up to a last backslash that has nothing to protect. -/
def Dangles (mark : Char) (text : List Char) : Prop :=
  ∃ body, Body mark body ∧ text = body ++ ['\\']

/-- The piece that a quotation opened before `text` is meant to be: up to its closing mark, and all
of the text where there is none. -/
def IsQuoted (mark : Char) (text piece : List Char) : Prop :=
  (∃ body after, Closes mark text body after ∧ piece = mark :: (body ++ [mark])) ∨
    ((∀ body after, ¬ Closes mark text body after) ∧ piece = mark :: text)

theorem Body.append {mark : Char} {units more : List Char} (first : Body mark units)
    (second : Body mark more) : Body mark (units ++ more) := by
  induction first with
  | nil => exact second
  | escaped c _ ih => exact .escaped c ih
  | doubled _ ih => exact .doubled ih
  | plain other unescaped _ ih => exact .plain other unescaped ih

section Units

variable {mark : Char}

theorem quotation?_escaped (c : Char) (rest : List Char) :
    quotation? mark ('\\' :: c :: rest) =
      (quotation? mark rest).map fun (inside, after) => ('\\' :: c :: inside, after) := by
  simp [quotation?]

theorem quotation?_plain {c : Char} (rest : List Char) (other : c ≠ mark) (bare : c ≠ '\\') :
    quotation? mark (c :: rest) =
      (quotation? mark rest).map fun (inside, after) => (c :: inside, after) := by
  cases rest with
  | nil => simp [quotation?, bare]
  | cons d rest => simp [quotation?, bare, other]

theorem quotation?_doubled (rest : List Char) (bare : mark ≠ '\\') :
    quotation? mark (mark :: mark :: rest) =
      match quotation? mark rest with
      | some (inside, after) => some (mark :: mark :: inside, after)
      | none => some ([mark], mark :: rest) := by
  cases inner : quotation? mark rest <;> simp [quotation?, bare, inner]

theorem quotation?_alone {after : List Char} (bare : mark ≠ '\\')
    (alone : after.head? ≠ some mark) : quotation? mark (mark :: after) = some ([mark], after) := by
  cases after with
  | nil => simp [quotation?, bare]
  | cons d after =>
    have other : d ≠ mark := by simpa using alone
    simp [quotation?, bare, other]

end Units

section Shapes

variable {mark : Char} {text body after : List Char}

theorem quotation?_of_closes (bare : mark ≠ '\\') (closes : Closes mark text body after) :
    quotation? mark text = some (body ++ [mark], after) := by
  obtain ⟨rfl, units, alone⟩ := closes
  induction units with
  | nil => exact quotation?_alone bare alone
  | escaped c _ ih => simp [quotation?_escaped, ih]
  | doubled _ ih => simp [quotation?_doubled _ bare, ih]
  | plain other unescaped _ ih => simp [quotation?_plain _ other unescaped, ih]

theorem quotation?_of_body (bare : mark ≠ '\\') (units : Body mark text) :
    quotation? mark text = some (text, []) := by
  induction units with
  | nil => rfl
  | escaped c _ ih => simp [quotation?_escaped, ih]
  | doubled _ ih => simp [quotation?_doubled _ bare, ih]
  | plain other unescaped _ ih => simp [quotation?_plain _ other unescaped, ih]

theorem quotation?_of_unpaired {tail : List Char} (units : Unpaired mark tail) :
    quotation? mark (tail ++ ['\\']) = none := by
  induction units with
  | nil => rfl
  | escaped c _ ih => simp [quotation?_escaped, ih]
  | plain other unescaped _ ih => simp [quotation?_plain _ other unescaped, ih]

/-- With a backslash left over, the last mark written twice ends the quotation halfway. -/
theorem quotation?_of_paired {before tail : List Char} (bare : mark ≠ '\\')
    (units : Body mark before) (unpaired : Unpaired mark tail) :
    quotation? mark (before ++ mark :: mark :: (tail ++ ['\\'])) =
      some (before ++ [mark], mark :: (tail ++ ['\\'])) := by
  induction units with
  | nil => simp [quotation?_doubled _ bare, quotation?_of_unpaired unpaired]
  | escaped c _ ih => simp [quotation?_escaped, ih]
  | doubled _ ih => simp [quotation?_doubled _ bare, ih]
  | plain other unescaped _ ih => simp [quotation?_plain _ other unescaped, ih]

theorem Body.unpaired_or_paired (units : Body mark body) :
    Unpaired mark body ∨ ∃ before tail,
      Body mark before ∧ Unpaired mark tail ∧ body = before ++ mark :: mark :: tail := by
  induction units with
  | nil => exact .inl .nil
  | escaped c _ ih =>
    rcases ih with unpaired | ⟨before, tail, units, unpaired, rfl⟩
    · exact .inl (.escaped c unpaired)
    · exact .inr ⟨_, tail, .escaped c units, unpaired, rfl⟩
  | @doubled rest _ ih =>
    rcases ih with unpaired | ⟨before, tail, units, unpaired, rfl⟩
    · exact .inr ⟨[], rest, .nil, unpaired, rfl⟩
    · exact .inr ⟨_, tail, .doubled units, unpaired, rfl⟩
  | plain other unescaped _ ih =>
    rcases ih with unpaired | ⟨before, tail, units, unpaired, rfl⟩
    · exact .inl (.plain other unescaped unpaired)
    · exact .inr ⟨_, tail, .plain other unescaped units, unpaired, rfl⟩

theorem Dangles.unpaired_or_paired (dangles : Dangles mark text) :
    (∃ tail, Unpaired mark tail ∧ text = tail ++ ['\\']) ∨ ∃ before tail,
      Body mark before ∧ Unpaired mark tail ∧
        text = before ++ mark :: mark :: (tail ++ ['\\']) := by
  obtain ⟨body, units, rfl⟩ := dangles
  rcases units.unpaired_or_paired with unpaired | ⟨before, tail, first, unpaired, rfl⟩
  · exact .inl ⟨body, unpaired, rfl⟩
  · exact .inr ⟨before, tail, first, unpaired, by simp⟩

theorem Body.of_escaped {c : Char} (bare : mark ≠ '\\')
    (units : Body mark ('\\' :: c :: text)) : Body mark text := by
  generalize whole : '\\' :: c :: text = all at units
  cases units with
  | nil => cases whole
  | escaped d units =>
    obtain ⟨-, rfl⟩ := List.cons.inj (List.cons.inj whole).2
    exact units
  | doubled => exact absurd (List.cons.inj whole).1.symm bare
  | plain _ unescaped => exact absurd (List.cons.inj whole).1.symm unescaped

theorem Body.of_doubled (bare : mark ≠ '\\') (units : Body mark (mark :: mark :: text)) :
    Body mark text := by
  generalize whole : mark :: mark :: text = all at units
  cases units with
  | nil => cases whole
  | escaped => exact absurd (List.cons.inj whole).1 bare
  | doubled units =>
    obtain ⟨-, rfl⟩ := List.cons.inj (List.cons.inj whole).2
    exact units
  | plain other => exact absurd (List.cons.inj whole).1.symm other

theorem Body.of_plain {c : Char} (other : c ≠ mark) (unescaped : c ≠ '\\')
    (units : Body mark (c :: text)) : Body mark text := by
  generalize whole : c :: text = all at units
  cases units with
  | nil => cases whole
  | escaped => exact absurd (List.cons.inj whole).1 unescaped
  | doubled => exact absurd (List.cons.inj whole).1 other
  | plain _ _ units =>
    obtain ⟨-, rfl⟩ := List.cons.inj whole
    exact units

theorem not_body_of_alone (bare : mark ≠ '\\') (alone : after.head? ≠ some mark) :
    ¬ Body mark (mark :: after) := by
  intro units
  generalize whole : mark :: after = all at units
  cases units with
  | nil => cases whole
  | escaped => exact bare (List.cons.inj whole).1
  | doubled => exact alone (by rw [(List.cons.inj whole).2]; rfl)
  | plain other => exact other (List.cons.inj whole).1.symm

/-- Units are read in one way only, so a text that closes is no body as well. -/
theorem Closes.not_body {body : List Char} (bare : mark ≠ '\\')
    (closes : Closes mark text body after) : ¬ Body mark text := by
  obtain ⟨rfl, units, alone⟩ := closes
  induction units with
  | nil => exact not_body_of_alone bare alone
  | escaped c _ ih => exact fun whole => ih (whole.of_escaped bare)
  | doubled _ ih => exact fun whole => ih (whole.of_doubled bare)
  | plain other unescaped _ ih => exact fun whole => ih (whole.of_plain other unescaped)

/-- A unit in front changes neither which shape a text has nor how it closes. -/
theorem shape_of_unit (unit : List Char) {rest : List Char}
    (extend : ∀ {units : List Char}, Body mark units → Body mark (unit ++ units))
    (shape : (∃ body after, Closes mark rest body after) ∨ Body mark rest ∨ Dangles mark rest) :
    (∃ body after, Closes mark (unit ++ rest) body after) ∨ Body mark (unit ++ rest) ∨
      Dangles mark (unit ++ rest) := by
  rcases shape with ⟨body, after, rfl, units, alone⟩ | units | ⟨body, units, rfl⟩
  · exact .inl ⟨unit ++ body, after, by simp, extend units, alone⟩
  · exact .inr (.inl (extend units))
  · exact .inr (.inr ⟨unit ++ body, extend units, by simp⟩)

theorem closes_or_body_or_dangles (mark : Char) (text : List Char) :
    (∃ body after, Closes mark text body after) ∨ Body mark text ∨ Dangles mark text := by
  induction text using quotation?.induct mark with
  | case1 => exact .inr (.inl .nil)
  | case2 => exact .inr (.inr ⟨[], .nil, rfl⟩)
  | case3 c bare =>
    by_cases same : c = mark
    · subst same
      exact .inl ⟨[], [], rfl, .nil, by simp⟩
    · exact .inr (.inl (.plain same bare .nil))
  | case4 d rest ih => exact shape_of_unit ['\\', d] (.escaped d) ih
  | case5 rest _ _ _ _ ih => exact shape_of_unit [mark, mark] .doubled ih
  | case6 rest _ _ ih => exact shape_of_unit [mark, mark] .doubled ih
  | case7 d rest other => exact .inl ⟨[], d :: rest, rfl, .nil, by simpa using other⟩
  | case8 c d rest bare other ih =>
    exact shape_of_unit [c] (.plain other bare) ih

end Shapes

end TokenEditor.Piece
