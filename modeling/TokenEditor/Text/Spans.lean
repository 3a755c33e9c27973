/-!
# Spans of code points

A class of characters is written as an ascending list of closed spans of code points. Looking a
character up stops at the first span that begins after it.
-/

namespace TokenEditor.Text

/-- A first and a last code point. -/
abbrev Span := Nat × Nat

/-- Whether one of the ascending `spans` holds `code`. -/
def inSpans (code : Nat) : List Span → Bool
  | [] => false
  | (first, last) :: rest => if code < first then false else code ≤ last || inSpans code rest

theorem inSpans_cons_of_mem {first last code : Nat} (rest : List Span)
    (above : first ≤ code) (below : code ≤ last) : inSpans code ((first, last) :: rest) = true := by
  simp [inSpans, Nat.not_lt.mpr above, below]

theorem exists_span_of_inSpans {code : Nat} {spans : List Span} (held : inSpans code spans = true) :
    ∃ span ∈ spans, span.1 ≤ code ∧ code ≤ span.2 := by
  induction spans with
  | nil => simp [inSpans] at held
  | cons span rest ih =>
    obtain ⟨first, last⟩ := span
    by_cases before : code < first
    · simp [inSpans, before] at held
    · by_cases within : code ≤ last
      · exact ⟨(first, last), by simp, by simpa using before, within⟩
      · have later : inSpans code rest = true := by simpa [inSpans, before, within] using held
        obtain ⟨found, member, bounds⟩ := ih later
        exact ⟨found, by simp [member], bounds⟩

end TokenEditor.Text
