import TokenEditor.Proofs.Workspace.Visible

/-!
# Looking ahead

What a cursor shows of the entries ahead of it is joined by other rules than a sequence that is
rendered: missing entries are left out of both, but an empty token is shown, with a space of its
own. So the two texts are the same just where there is no empty token, or nothing else.
-/

namespace TokenEditor

namespace Entries

/-- Entries that are joined alike by both rules: none is an empty token, unless that is the only
token there is. -/
def JoinAlike (entries : List Entry) : Prop :=
  some "" ∉ entries ∨ entries.filterMap id = [""]

theorem length_spaced (parts : List String) :
    (spaced parts).length = (parts.flatMap String.toList).length + (parts.length - 1) := by
  induction parts with
  | nil => rfl
  | cons part rest ih =>
    have longer : ((part :: rest).flatMap String.toList).length =
        part.length + (rest.flatMap String.toList).length := by
      rw [List.flatMap_cons, List.length_append, String.length_toList]
    rw [longer]
    cases rest with
    | nil =>
      rw [spaced, String.intercalate_singleton]
      rfl
    | cons next rest =>
      have space : " ".length = 1 := rfl
      rw [spaced, String.intercalate_cons_cons, String.length_append, String.length_append, space,
        ← spaced, ih]
      simp only [List.length_cons]
      omega

theorem flatMap_toList_filter (parts : List String) :
    (parts.filter (· ≠ "")).flatMap String.toList = parts.flatMap String.toList := by
  induction parts with
  | nil => rfl
  | cons part rest ih =>
    by_cases empty : part = ""
    · rw [List.filter_cons_of_neg (by simp [empty]), ih, empty]
      rfl
    · rw [List.filter_cons_of_pos (by simp [empty]), List.flatMap_cons, ih, List.flatMap_cons]

theorem spaced_filter_eq_iff (parts : List String) :
    spaced (parts.filter (· ≠ "")) = spaced parts ↔ "" ∉ parts ∨ parts = [""] := by
  constructor
  · intro same
    have lengths := congrArg String.length same
    rw [length_spaced, length_spaced, flatMap_toList_filter] at lengths
    have fewer := List.length_filter_le (· ≠ "") parts
    by_cases all : (parts.filter (· ≠ "")).length = parts.length
    · left
      intro member
      have kept := (List.length_filter_eq_length_iff.mp all) "" member
      simp at kept
    · -- Less one, both are the same number: no part is left of a single one.
      right
      have single : parts.length = 1 := by omega
      obtain ⟨part, rfl⟩ := List.length_eq_one_iff.mp single
      by_cases empty : part = ""
      · rw [empty]
      · simp [empty] at all
  · rintro (none | rfl)
    · have kept : parts.filter (· ≠ "") = parts := by
        apply List.filter_eq_self.mpr
        intro part member
        simpa using fun empty : part = "" => none (empty ▸ member)
      rw [kept]
    · rfl

theorem render_eq_spaced_filter (entries : List Entry) :
    render entries = spaced ((entries.filterMap id).filter (· ≠ "")) := by
  rw [render, List.filter_filterMap]
  rfl

theorem preview_eq_render_iff (entries : List Entry) :
    preview entries = render entries ↔ JoinAlike entries := by
  rw [eq_comm, render_eq_spaced_filter, preview, spaced_filter_eq_iff, JoinAlike]
  simp

theorem visible_preview (entries : List Entry) :
    Text.visible (preview entries) = Text.visible (render entries) := by
  rw [visible_render, preview, visible_spaced]
  induction entries with
  | nil => rfl
  | cons entry entries ih =>
    cases entry with
    | none => exact ih
    | some token => exact congrArg (Text.visible token ++ ·) ih

theorem reach_natCast (length place : Nat) : Slice.reach length place = min place length := by
  have counted : ¬ (place : Int) < 0 := Int.not_lt.mpr (Int.natCast_nonneg place)
  rw [Slice.reach, Slice.clamp, if_neg counted]
  omega

theorem shown_ahead (entries : List Entry) (start count : Nat) :
    shown entries start (start + count : Nat) = (entries.drop start).take count := by
  rw [shown, window, reach_natCast, reach_natCast, List.drop_take]
  rcases Nat.le_total start entries.length with inside | beyond
  · rw [Nat.min_eq_left inside]
    apply List.take_eq_take_iff.mpr
    rw [List.length_drop]
    omega
  · rw [Nat.min_eq_right beyond, List.drop_length, List.drop_of_length_le beyond, List.take_nil,
      List.take_nil]

end Entries

namespace Workspace

variable {w : Workspace} (host : Host)

theorem perform_peek {id : ItemId} {cursor : ItemCursor} {count : Value} {start ahead : Nat}
    (found : w.items[id]? = some cursor) (starts : cursor.index.whole? = some (start : Int))
    (counts : count.whole? = some (ahead : Int)) :
    w.perform host (.ofItem id (.peek count)) =
      (w, pure (.text (Entries.preview (((w.entries cursor.owner).drop start).take ahead)))) := by
  have stops : cursor.index.sum count = .ok (.int (start + ahead : Nat)) := by
    rw [Value.sum, Value.number_of_whole? starts, Value.number_of_whole? counts]
    rfl
  have shows := window_of_whole? (w := w) cursor.owner starts
    (Value.whole?_int (start + ahead : Nat))
  rw [Entries.shown_ahead] at shows
  have planned : w.plan host (.ofItem id (.peek count)) = .ofExcept (.ok (.nothing
      (.text (Entries.preview (((w.entries cursor.owner).drop start).take ahead))))) := by
    rw [plan, found]
    simp only [planItem, peek, stops, bind, Except.bind, shows]
    rfl
  exact perform_of_plan planned

/-- A sequence can be built from entries as they are; its lexer has nothing to do. -/
theorem perform_newSequence_of_entries {settings : Settings} {lexer : Lexer}
    (made : settings.lexer w.view = .ok lexer) (entries : List Entry) :
    w.perform host (.newSequence (.ofEntries entries) settings) =
      (w.addSequence ⟨entries, lexer⟩, pure (.sequence w.sequences.length)) := by
  have planned : w.plan host (.newSequence (.ofEntries entries) settings) =
      .ofExcept (.ok (.addSequence ⟨entries, lexer⟩)) := by
    simp only [plan, newSequence, made, Value.ofEntries, Value.elements, Value.elements?]
    refine congrArg (fun entries => Attempt.ofExcept (.ok (Change.addSequence ⟨entries, lexer⟩)))
      (List.map_map.trans ((List.map_congr_left fun entry _ => ?_).trans (List.map_id entries)))
    cases entry <;> rfl
  exact perform_of_plan planned

theorem perform_first {owner : SequenceId} (notEmpty : w.entries owner ≠ []) :
    w.perform host (.ofSequence owner .first) =
      (w.addItem ⟨.int 0, owner⟩, pure (.item w.items.length)) := by
  have planned : w.plan host (.ofSequence owner .first) =
      .ofExcept (.ok (.addItem ⟨.int 0, owner⟩)) := by
    rw [plan, planSequence, edge]
    cases entries : w.entries owner with
    | nil => exact absurd entries notEmpty
    | cons entry rest => rfl
  exact perform_of_plan planned

/-- What a cursor shows ahead of it is what a sequence of just these entries is rendered as if and
only if there is no empty token among them, or no other token; and so it is with all entries of a
sequence, seen from the first of them. The two texts never differ in more than spaces. -/
theorem peek_renders_where_joined_alike (w : Workspace) (host : Host) :
    (∀ (id : ItemId) (cursor : ItemCursor) (count : Value) (start length : Nat)
      (settings : Settings) (lexer : Lexer), w.items[id]? = some cursor →
      cursor.index.whole? = some (start : Int) → count.whole? = some (length : Int) →
      settings.lexer w.view = .ok lexer →
      let ahead := ((w.entries cursor.owner).drop start).take length
      let built := w.perform host (.newSequence (.ofEntries ahead) settings)
      let rendered := built.1.perform host (.ofSequence w.sequences.length .render)
      built.2.answer = .ok (.sequence w.sequences.length) ∧
        built.1.entries w.sequences.length = ahead ∧
        ∃ shown text, w.perform host (.ofItem id (.peek count)) = (w, pure (.text shown)) ∧
          rendered.2.answer = .ok (.text text) ∧ Text.visible shown = Text.visible text ∧
          (shown = text ↔ Entries.JoinAlike ahead)) ∧
    ∀ owner : SequenceId, w.entries owner ≠ [] →
      let first := w.perform host (.ofSequence owner .first)
      let peeked := first.1.perform host
        (.ofItem w.items.length (.peek (.int (w.entries owner).length)))
      let displayed := first.1.perform host (.display (.sequence owner))
      first.2.answer = .ok (.item w.items.length) ∧
        ∃ shown text, peeked.2.answer = .ok (.text shown) ∧
          displayed.2.answer = .ok (.text text) ∧ Text.visible shown = Text.visible text ∧
          (shown = text ↔ Entries.JoinAlike (w.entries owner)) := by
  constructor
  · intro id cursor count start length settings lexer found starts counts made ahead built rendered
    have builds := perform_newSequence_of_entries host made ahead
    have entries : (w.addSequence ⟨ahead, lexer⟩).entries w.sequences.length = ahead := by
      rw [entries_addSequence, if_pos rfl]
    refine ⟨congrArg (·.2.answer) builds, ?_, _, _, perform_peek host found starts counts, ?_,
      Entries.visible_preview ahead, Entries.preview_eq_render_iff ahead⟩
    · rw [show built = _ from builds, entries]
    · rw [show rendered = _ from perform_render .., show built = _ from builds, entries]
  · intro owner notEmpty
    have held : (w.addItem ⟨.int 0, owner⟩).items[w.items.length]? = some ⟨.int 0, owner⟩ := by
      simp [addItem]
    have starts : (Value.int 0).whole? = some ((0 : Nat) : Int) := rfl
    have peeks := perform_peek host held starts (Value.whole?_int (w.entries owner).length)
    have all : ((w.entries owner).drop 0).take (w.entries owner).length = w.entries owner := by
      rw [List.drop_zero, List.take_length]
    rw [perform_first host notEmpty]
    refine ⟨rfl, Entries.preview (w.entries owner), Entries.render (w.entries owner), ?_, ?_,
      Entries.visible_preview _, Entries.preview_eq_render_iff _⟩
    · rw [peeks]
      exact congrArg (fun entries => Except.ok (Value.text (Entries.preview entries))) all
    · exact congrArg (fun entries => Except.ok (Value.text (Entries.render (entries owner))))
        (entries_view _)

/-- The entries ahead of the cursor are joined alike as far as the empty token at the end, and all
together they are not. -/
theorem peek_renders_where_joined_alike_up_to_empty_token :
    let host : Host := ⟨fun _ => .ok, fun _ _ => .ok⟩
    let entries : List Entry := [none, some "a", none, some "b", some ""]
    let w : Workspace := ⟨[⟨entries, Lexer.standard⟩], [⟨.int 1, 0⟩], []⟩
    let ahead : List Entry := [some "a", none, some "b"]
    let built := w.perform host (.newSequence (.ofEntries ahead) Settings.standard)
    let first := w.perform host (.ofSequence 0 .first)
    w.items[0]? = some ⟨.int 1, 0⟩ ∧ Settings.standard.lexer w.view = .ok Lexer.standard ∧
      Entries.JoinAlike ahead ∧
      (w.perform host (.ofItem 0 (.peek (.int 3)))).2.answer =
        (built.1.perform host (.ofSequence 1 .render)).2.answer ∧
      w.entries 0 ≠ [] ∧ ¬ Entries.JoinAlike entries ∧
      (first.1.perform host (.ofItem 1 (.peek (.int 5)))).2.answer ≠
        (first.1.perform host (.display (.sequence 0))).2.answer := by
  intro host entries w ahead built first
  obtain ⟨stretches, whole⟩ := peek_renders_where_joined_alike w host
  have notEmpty : w.entries 0 ≠ [] := List.cons_ne_nil _ _
  have alike : Entries.JoinAlike ahead := .inl (by decide)
  have apart : ¬ Entries.JoinAlike entries := by
    rintro (none | only)
    · exact none (by decide)
    · exact absurd only (by decide)
  obtain ⟨-, -, shown, text, peeks, renders, -, same⟩ :=
    stretches 0 ⟨.int 1, 0⟩ (.int 3) 1 3 Settings.standard Lexer.standard rfl rfl rfl rfl
  obtain ⟨-, shownAll, textAll, peeksAll, displays, -, sameAll⟩ := whole 0 notEmpty
  refine ⟨rfl, rfl, alike, ?_, notEmpty, apart, fun agree => apart (sameAll.mp ?_)⟩
  · rw [same.mpr alike] at peeks
    exact (congrArg (·.2.answer) peeks).trans renders.symm
  · have equal := (peeksAll.symm.trans agree).trans displays
    exact Value.text.inj (Except.ok.inj equal)

/-- A sequence of two tokens with an empty one between them: ahead of its first entry there are two
spaces in a row, and there is one where it is rendered. -/
theorem two_spaces_ahead_around_empty_token :
    let host : Host := ⟨fun _ => .ok, fun _ _ => .ok⟩
    let source := Value.list [.text "a", .text "", .text "b"]
    let made := Workspace.empty.perform host (.newSequence source Settings.standard)
    let first := made.1.perform host (.ofSequence 0 .first)
    made.2.answer = .ok (.sequence 0) ∧ first.2.answer = .ok (.item 0) ∧
      (first.1.perform host (.ofItem 0 (.peek (.int 3)))).2.answer = .ok (.text "a  b") ∧
      (first.1.perform host (.ofSequence 0 .render)).2.answer = .ok (.text "a b") := by
  intro host source made first
  let entries : List Entry := [some "a", some "", some "b"]
  let w : Workspace := ⟨[⟨entries, Lexer.standard⟩], [⟨.int 0, 0⟩], []⟩
  have shown : Entries.preview entries = "a  b" := by decide +kernel
  have rendered : Entries.render entries = "a b" := by decide +kernel
  have reached : first.1 = w := rfl
  have starts : (Value.int 0).whole? = some ((0 : Nat) : Int) := rfl
  have counts : (Value.int 3).whole? = some ((3 : Nat) : Int) := rfl
  have found : w.items[0]? = some ⟨.int 0, 0⟩ := rfl
  refine ⟨rfl, rfl, ?_, ?_⟩
  · rw [reached, perform_peek host found starts counts, ← shown]
    rfl
  · rw [reached, perform_render, ← rendered]
    rfl

end Workspace

end TokenEditor
