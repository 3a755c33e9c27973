import TokenEditor.Proofs.Selecting
import TokenEditor.Proofs.Workspace.Computing
import TokenEditor.Proofs.Workspace.Extending

/-!
# With one cursor more

Making a cursor changes nothing about what is there. Cursors at numbers look as they did, so a
payload that names nothing but what was there before comes to the same tokens afterwards.
-/

namespace TokenEditor

/-- All that a payload is read from names only what is known: the payload itself, and the pieces
that a text is cut into. -/
def Payload.NamesOnly (host : Host) (lexer : Lexer) (view : View) (known : Value → Bool)
    (payload : Value) : Prop :=
  payload.namesOnly known = true ∧
    ∀ s pieces, payload = .text s → (lexer.cutter.cut host view payload).answer = .ok pieces →
      Value.nameOnly known pieces = true

section Naming

variable {host : Host} {lexer : Lexer} {known : Value → Bool} {view other : View}
  (same : view.entries = other.entries)

theorem Payload.namesOnly_text_of_standard (standard : lexer.cutter = .standard) (s : String) :
    NamesOnly host lexer view known (.text s) := by
  refine ⟨rfl, fun _ pieces _ cuts => ?_⟩
  rw [standard] at cuts
  cases cuts
  apply Value.nameOnly_iff.mpr
  intro piece member
  obtain ⟨token, -, rfl⟩ := List.mem_map.mp member
  rfl

theorem Payload.NamesOnly.nameOnly_of_listed {payload : Value}
    (named : NamesOnly host lexer view known payload) {items : List Value}
    (lists : (listed host lexer view payload).answer = .ok items) :
    Value.nameOnly known items = true := by
  apply Value.nameOnly_iff.mpr
  intro item member
  cases payload with
  | null =>
    cases lists
    cases member
  | text s =>
    obtain ⟨tokens, -, shown⟩ := Attempt.answer_bind_eq_ok.mp lists
    cases shown
    obtain ⟨token, -, rfl⟩ := List.mem_map.mp member
    rfl
  | list _ | tuple _ | stream _ | bytes _ | dict _ | sequence _ =>
    cases lists
    refine Value.namesOnly_of_mem_elements? named.1 (?_ : Value.elements? view _ = some _) member
    rfl
  | _ => cases lists

include same

theorem Value.elements_congr (value : Value) : value.elements view = value.elements other := by
  have found : value.elements? view = value.elements? other := by
    cases value with
    | sequence id => rw [elements?, elements?, same]
    | _ => rfl
  rw [elements, elements, found]

theorem Cutter.cut_congr (value : Value) (cutter : Cutter) :
    cutter.cut host view value = cutter.cut host other value := by
  cases cutter with
  | perCharacter => rw [cut, cut, value.elements_congr same]
  | fixed answer => rw [cut, cut, answer.elements_congr same]
  | calling callable => simp only [cut, Value.elements_congr same]
  | _ => rfl

variable (alike : View.Alike known view other) {payload : Value}
  (named : Payload.NamesOnly host lexer view known payload)

include alike named

theorem Payload.NamesOnly.tokens_congr {s : String} (texts : payload = .text s) :
    lexer.tokens host view payload = lexer.tokens host other payload := by
  have pieces : lexer.pieces host view payload = lexer.pieces host other payload := by
    rw [Lexer.pieces, Lexer.pieces, ← Cutter.cut_congr same]
    apply Attempt.bind_congr_of_ok
    intro pieces cuts
    have shown : pieces.map (Value.shown view) = pieces.map (Value.shown other) := by
      apply List.map_congr_left
      intro piece member
      exact Value.shown_of_alike alike
        (Value.nameOnly_iff.mp (named.2 s pieces texts cuts) piece member)
    rw [shown]
  rw [Lexer.tokens, Lexer.tokens, pieces, lexer.fuses.isTrue_congr same]

theorem Payload.NamesOnly.listed_congr :
    listed host lexer view payload = listed host lexer other payload := by
  cases payload with
  | text s => rw [listed, listed, named.tokens_congr same alike rfl]
  | sequence id => simp only [listed, Value.elements?, same]
  | _ => rfl

end Naming

namespace Workspace

def holds (w : Workspace) : Value → Bool
  | .sequence id => id < w.sequences.length
  | .item id => id < w.items.length
  | .range id => id < w.ranges.length
  | _ => true

/-- No coordinate of a cursor names anything, as no number does. -/
structure LiteralCoordinates (w : Workspace) : Prop where
  items : ∀ cursor ∈ w.items, cursor.index.isLiteral = true
  ranges : ∀ cursor ∈ w.ranges, cursor.start.isLiteral = true ∧ cursor.stop.isLiteral = true

namespace LiteralCoordinates

variable {w : Workspace} (literal : w.LiteralCoordinates)

include literal

theorem itemText_eq (inner other : View) (id : ItemId) :
    w.itemText inner id = w.itemText other id := by
  unfold itemText
  cases found : w.items[id]? with
  | none => rfl
  | some cursor =>
    have index := literal.items cursor (List.mem_of_getElem? found)
    simp only [Value.shown_of_isLiteral inner other index]

theorem rangeText_eq (inner other : View) (id : RangeId) :
    w.rangeText inner id = w.rangeText other id := by
  unfold rangeText
  cases found : w.ranges[id]? with
  | none => rfl
  | some cursor =>
    obtain ⟨start, stop⟩ := literal.ranges cursor (List.mem_of_getElem? found)
    simp only [Value.shown_of_isLiteral inner other start,
      Value.shown_of_isLiteral inner other stop]

/-- What is there looks as it did when there is one range more. -/
theorem alike_addRange (range : RangeCursor) :
    View.Alike w.holds w.view (w.addRange range).view := by
  have deeper : (w.addRange range).view =
      (w.addRange range).viewWithin (w.items.length + w.ranges.length + 1) := by
    simp [view, addRange, Nat.add_assoc]
  refine ⟨fun id _ => ?_, fun id held => ?_, fun id held => ?_⟩
  · rw [entries_view, entries_view]
    rfl
  · have inside : id < w.items.length := of_decide_eq_true held
    have some : 0 < w.items.length := Nat.zero_lt_of_lt inside
    obtain ⟨depth, counted⟩ : ∃ depth, w.items.length + w.ranges.length = depth + 1 :=
      Nat.exists_eq_add_one.mpr (by omega)
    rw [deeper, view, counted]
    exact literal.itemText_eq _ _ id
  · have inside : id < w.ranges.length := of_decide_eq_true held
    have some : 0 < w.ranges.length := Nat.zero_lt_of_lt inside
    obtain ⟨depth, counted⟩ : ∃ depth, w.items.length + w.ranges.length = depth + 1 :=
      Nat.exists_eq_add_one.mpr (by omega)
    rw [deeper, view, counted]
    refine (literal.rangeText_eq _ ((w.addRange range).viewWithin (depth + 1)) id).trans ?_
    have kept : (w.addRange range).ranges[id]? = w.ranges[id]? :=
      List.getElem?_append_left inside
    simp only [viewWithin, rangeText, kept]

end LiteralCoordinates

/-- Two requests come to the same entries, and to the same range or the same fault. -/
structure SameOutcome (w : Workspace) (done other : Workspace × Attempt Value) : Prop where
  entries : ∀ id < w.sequences.length, other.1.entries id = done.1.entries id
  range : rangeOf other = rangeOf done

section Widening

variable {w other : Workspace} {host : Host} {owner : SequenceId} {payload : Value}
  (same : other.entries = w.entries)

include same

theorem tokensFor_congr (lexers : other.lexer owner = w.lexer owner) {known : Value → Bool}
    (alike : View.Alike known w.view other.view) (run : List Entry)
    (uncomputed : payload.isComputed = false)
    (named : Payload.NamesOnly host (w.lexer owner) w.view known payload) :
    other.tokensFor host owner run payload = w.tokensFor host owner run payload := by
  have views : w.view.entries = other.view.entries := by
    rw [entries_view, entries_view, same]
  by_cases ready : ∃ tokens, payload = .literal tokens
  · obtain ⟨tokens, rfl⟩ := ready
    have listed : (Value.list tokens).namesOnly known = true := named.1
    exact (Payload.written_of_alike alike listed).symm
  · have unready := not_exists.mp ready
    rw [tokensFor, tokensFor, resolve_of_given uncomputed unready,
      resolve_of_given uncomputed unready, lexers, ← named.listed_congr views alike,
      Attempt.map_answer]
    cases lists : (Payload.listed host (w.lexer owner) w.view payload).answer with
    | error fault => rfl
    | ok items =>
      have listed : (Value.list items).namesOnly known = true := named.nameOnly_of_listed lists
      exact (Payload.written_of_alike alike listed).symm

theorem sameOutcome_of_plans {request further : Request}
    (held : other.sequences.length = w.sequences.length)
    (plans : (other.plan host further).answer = (w.plan host request).answer)
    (splices : ∀ change, (w.plan host request).answer = .ok change →
      ∃ edit, change = .splice edit) :
    w.SameOutcome (w.perform host request) (other.perform host further) := by
  cases planned : (w.plan host request).answer with
  | error fault =>
    rw [planned] at plans
    obtain ⟨answer, content⟩ := perform_of_error planned
    obtain ⟨answer', content'⟩ := perform_of_error plans
    refine ⟨fun id _ => ?_, ?_⟩
    · rw [content.entries, content'.entries, same]
    · rw [rangeOf, rangeOf, answer, answer']
      rfl
  | ok change =>
    obtain ⟨edit, rfl⟩ := splices change planned
    rw [planned] at plans
    refine ⟨fun id inside => ?_, ?_⟩
    · rw [entries_perform_of_splice planned inside, entries_perform_of_splice plans (held ▸ inside),
        same]
    · rw [rangeOf_perform_of_splice planned, rangeOf_perform_of_splice plans]

end Widening

end Workspace

end TokenEditor
