/-!
# Patterns

A pattern says how a text may begin. It is matched from left to right, and where it leaves a choice
the ways to go on are tried in order, so that the first one that reaches the end of the pattern is
the match. `rests` lists all of them, `rest?` is the match.
-/

namespace TokenEditor

inductive Pattern where
  /-- One character of a class. -/
  | one (holds : Char → Bool)
  | seq (first second : Pattern)
  | either (preferred other : Pattern)
  /-- The pattern if it fits, else nothing. -/
  | maybe (pattern : Pattern)
  /-- The pattern as often as it fits, also not at all. -/
  | many (pattern : Pattern)
  /-- The end of the text, before which a last line may still be ended. -/
  | atEnd
  /-- Nothing, unless a character of the class comes next. -/
  | notBefore (holds : Char → Bool)

namespace Pattern

/-- What may be left of a text after a step is repeated; more repetitions come first. A step that
takes nothing is not repeated. -/
def repeats (step : List Char → List (List Char)) (text : List Char) : List (List Char) :=
  (step text).flatMap
    (fun rest => if rest.length < text.length then repeats step rest else []) ++ [text]
termination_by text.length

def rests : Pattern → List Char → List (List Char)
  | one _, [] => []
  | one holds, c :: rest => if holds c then [rest] else []
  | seq first second, text => (first.rests text).flatMap second.rests
  | either preferred other, text => preferred.rests text ++ other.rests text
  | maybe pattern, text => pattern.rests text ++ [text]
  | many pattern, text => repeats pattern.rests text
  | atEnd, text => if text = [] ∨ text = ['\n'] then [text] else []
  | notBefore holds, text => if text.head?.any holds then [] else [text]

def rest? (pattern : Pattern) (text : List Char) : Option (List Char) :=
  (pattern.rests text).head?

def oneOrMore (pattern : Pattern) : Pattern := seq pattern (many pattern)

section Equations

variable (p q : Pattern) (holds : Char → Bool) (text : List Char)

@[simp] theorem rests_one_nil : (one holds).rests [] = [] := rfl

@[simp] theorem rests_one_cons (c : Char) (rest : List Char) :
    (one holds).rests (c :: rest) = if holds c then [rest] else [] := rfl

@[simp] theorem rests_seq : (seq p q).rests text = (p.rests text).flatMap q.rests := rfl

@[simp] theorem rests_either : (either p q).rests text = p.rests text ++ q.rests text := rfl

@[simp] theorem rests_maybe : (maybe p).rests text = p.rests text ++ [text] := rfl

@[simp] theorem rests_atEnd :
    atEnd.rests text = if text = [] ∨ text = ['\n'] then [text] else [] := rfl

@[simp] theorem rests_notBefore :
    (notBefore holds).rests text = if text.head?.any holds then [] else [text] := rfl

theorem rests_many :
    (many p).rests text =
      (p.rests text).flatMap
        (fun rest => if rest.length < text.length then (many p).rests rest else []) ++ [text] := by
  change repeats p.rests text = _
  rw [repeats]
  rfl

end Equations

section Choices

variable (p q : Pattern) (text : List Char)

theorem rest?_either : (either p q).rest? text = (p.rest? text).or (q.rest? text) := by
  simp only [rest?, rests_either, List.head?_append]

theorem rest?_seq : (seq p q).rest? text = (p.rests text).findSome? q.rest? := by
  simp only [rest?, rests_seq, List.head?_flatMap]
  rfl

end Choices

section Members

variable {p q : Pattern} {holds : Char → Bool} {text rest : List Char}

theorem mem_rests_one :
    rest ∈ (one holds).rests text ↔ ∃ c, text = c :: rest ∧ holds c = true := by
  cases text with
  | nil => simp
  | cons c text =>
    rw [rests_one_cons]
    constructor
    · intro member
      by_cases held : holds c
      · rw [if_pos held, List.mem_singleton] at member
        exact ⟨c, by rw [member], held⟩
      · simp [held] at member
    · rintro ⟨d, whole, held⟩
      obtain ⟨rfl, rfl⟩ := List.cons.inj whole
      simp [held]

theorem mem_rests_seq :
    rest ∈ (seq p q).rests text ↔ ∃ middle ∈ p.rests text, rest ∈ q.rests middle := by
  simp

theorem mem_rests_either :
    rest ∈ (either p q).rests text ↔ rest ∈ p.rests text ∨ rest ∈ q.rests text := by
  simp

theorem mem_rests_maybe : rest ∈ (maybe p).rests text ↔ rest ∈ p.rests text ∨ rest = text := by
  simp

theorem mem_rests_notBefore :
    rest ∈ (notBefore holds).rests text ↔ rest = text ∧ text.head?.any holds = false := by
  by_cases before : text.head?.any holds = true <;> simp [before]

end Members

/-- Where a step can go on in one way only, the repetition goes on with it or else stops. -/
theorem rest?_many_seq_of_step {p q : Pattern} {text : List Char} (rest : List Char)
    (step : p.rests text = [rest]) (shorter : rest.length < text.length) :
    (seq (many p) q).rest? text = ((seq (many p) q).rest? rest).or (q.rest? text) := by
  rw [rest?_seq, rest?_seq, rests_many, step]
  simp [shorter, List.findSome?_append]

theorem rest?_many_seq_of_stop {p q : Pattern} {text : List Char} (stop : p.rests text = []) :
    (seq (many p) q).rest? text = q.rest? text := by
  rw [rest?_seq, rests_many, stop]
  simp

section Runs

variable (holds : Char → Bool)

@[simp] theorem rests_many_one_nil : (many (one holds)).rests [] = [[]] := by
  rw [rests_many]
  simp

theorem rests_many_one_cons (c : Char) (rest : List Char) :
    (many (one holds)).rests (c :: rest) =
      (if holds c then (many (one holds)).rests rest else []) ++ [c :: rest] := by
  rw [rests_many]
  by_cases held : holds c <;> simp [held]

variable {holds}

theorem mem_rests_many_one {text rest : List Char} :
    rest ∈ (many (one holds)).rests text ↔
      ∃ taken, text = taken ++ rest ∧ ∀ c ∈ taken, holds c = true := by
  induction text with
  | nil =>
    rw [rests_many_one_nil, List.mem_singleton]
    constructor
    · rintro rfl
      exact ⟨[], rfl, by simp⟩
    · rintro ⟨taken, whole, -⟩
      exact (List.append_eq_nil_iff.mp whole.symm).2
  | cons c text ih =>
    rw [rests_many_one_cons, List.mem_append, List.mem_singleton]
    constructor
    · rintro (further | rfl)
      · by_cases held : holds c
        · rw [if_pos held] at further
          obtain ⟨taken, rfl, all⟩ := ih.mp further
          exact ⟨c :: taken, rfl, by simpa [held] using all⟩
        · simp [held] at further
      · exact ⟨[], rfl, by simp⟩
    · rintro ⟨taken, whole, all⟩
      cases taken with
      | nil => exact .inr whole.symm
      | cons d taken =>
        obtain ⟨rfl, rfl⟩ := List.cons.inj whole
        left
        rw [if_pos (all c (by simp))]
        exact ih.mpr ⟨taken, rfl, fun d member => all d (by simp [member])⟩

theorem rest?_many_one (text : List Char) :
    (many (one holds)).rest? text = some (text.dropWhile holds) := by
  induction text with
  | nil => simp [rest?]
  | cons c text ih =>
    rw [rest?, rests_many_one_cons]
    by_cases held : holds c
    · have further : ((many (one holds)).rests text).head? = some (text.dropWhile holds) :=
        ih
      simp [held, further]
    · simp [held]

theorem mem_rests_oneOrMore_one {text rest : List Char} :
    rest ∈ (oneOrMore (one holds)).rests text ↔
      ∃ c taken, text = c :: taken ++ rest ∧ ∀ d ∈ c :: taken, holds d = true := by
  rw [oneOrMore, mem_rests_seq]
  constructor
  · rintro ⟨middle, first, further⟩
    obtain ⟨c, rfl, held⟩ := mem_rests_one.mp first
    obtain ⟨taken, rfl, all⟩ := mem_rests_many_one.mp further
    exact ⟨c, taken, rfl, by simpa [held] using all⟩
  · rintro ⟨c, taken, rfl, all⟩
    refine ⟨taken ++ rest, mem_rests_one.mpr ⟨c, rfl, all c (by simp)⟩, ?_⟩
    apply mem_rests_many_one.mpr
    exact ⟨taken, rfl, fun d member => all d (by simp [member])⟩

theorem rest?_oneOrMore_one_cons {c : Char} (rest : List Char) (held : holds c = true) :
    (oneOrMore (one holds)).rest? (c :: rest) = some (rest.dropWhile holds) := by
  rw [oneOrMore, rest?_seq]
  simp [held, rest?_many_one]

end Runs

end Pattern

end TokenEditor
