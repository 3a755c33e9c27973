import TokenEditor.Proofs.Workspace.Effects

/-!
# Visible characters

Between a text and what its sequence is rendered as, blanks come and go: those between the pieces
are dropped, and spaces are put into operators and between tokens. All other characters stay, in
their order, whatever the table of operators is and whether anything is fused or not.
-/

namespace TokenEditor

open Text

def Text.visible (text : String) : List Char := text.toList.filter fun c => !isBlank c

@[simp] theorem Text.visible_append (front back : String) :
    visible (front ++ back) = visible front ++ visible back := by
  rw [visible, String.toList_append, List.filter_append, visible, visible]

@[simp] theorem Text.visible_space : visible " " = [] := by decide +kernel

namespace Piece

theorem filter_flatten_cut (text : List Char) :
    (cut text).flatten.filter (fun c => !isBlank c) = text.filter fun c => !isBlank c := by
  fun_induction cut text with
  | case1 => rfl
  | case2 c rest blank ih => simp [blank, ih]
  | case3 c rest visible ih =>
    rw [List.flatten_cons, List.filter_append, ih, ← List.filter_append, first_append]

theorem visible_pieces (text : String) : (pieces text).flatMap visible = visible text := by
  have each : (cut text.toList).flatMap (List.filter fun c => !isBlank c) =
      text.toList.filter fun c => !isBlank c := by
    rw [← filter_flatten_cut, List.filter_flatten, List.flatMap_def]
  rw [pieces, List.flatMap_map, visible, ← each]
  simp [visible]

end Piece

namespace Operator

variable (isOperator : String → Bool)

theorem visible_of_join? {previous piece joined : String}
    (found : join? isOperator previous piece = some joined) :
    visible joined = visible previous ++ visible piece := by
  rcases join?_eq_some found with ⟨-, rfl⟩ | ⟨-, -, rfl⟩
  · exact visible_append previous piece
  · rw [visible_append, visible_append, visible_space, List.append_nil]

theorem visible_fuseFrom (value : String) (pieces : List String) :
    (fuseFrom isOperator value pieces).flatMap visible =
      visible value ++ pieces.flatMap visible := by
  induction pieces generalizing value with
  | nil => rfl
  | cons piece pieces ih =>
    rw [fuseFrom]
    cases joins : join? isOperator value piece with
    | some joined =>
      simp only
      rw [ih, visible_of_join? isOperator joins, List.flatMap_cons, List.append_assoc]
    | none =>
      simp only
      rw [List.flatMap_cons, ih, List.flatMap_cons]

theorem visible_fuse (pieces : List String) :
    (fuse isOperator pieces).flatMap visible = pieces.flatMap visible := by
  cases pieces with
  | nil => rfl
  | cons piece pieces => exact visible_fuseFrom isOperator piece pieces

end Operator

namespace Entries

theorem visible_spaced (parts : List String) : visible (spaced parts) = parts.flatMap visible := by
  induction parts with
  | nil => rfl
  | cons part rest ih =>
    cases rest with
    | nil => simp [spaced]
    | cons next rest =>
      rw [spaced, String.intercalate_cons_cons, visible_append, visible_append, visible_space,
        List.append_nil, List.flatMap_cons, ← ih, spaced]

theorem visible_render (entries : List Entry) :
    visible (render entries) = entries.flatMap fun entry => visible (entry.getD "") := by
  rw [render, visible_spaced]
  induction entries with
  | nil => rfl
  | cons entry entries ih =>
    rw [List.filterMap_cons, List.flatMap_cons, ← ih]
    cases entry with
    | none => rfl
    | some token =>
      by_cases empty : token = ""
      · rw [empty]
        rfl
      · simp [Option.filter, empty]

end Entries

namespace Lexer

/-- Whatever its operators are, a lexer that cuts in the standard way loses nothing visible. -/
theorem exists_tokens_of_standard {lexer : Lexer} (standard : lexer.cutter = .standard)
    (host : Host) (view : View) (text : String) :
    ∃ tokens, (lexer.tokens host view (.text text)).answer = .ok tokens ∧
      tokens.flatMap visible = visible text := by
  have cut : lexer.pieces host view (.text text) = pure (Piece.pieces text) := by
    simp [pieces, standard, Cutter.cut, Function.comp_def, Value.shown]
  rw [tokens, cut, pure_bind]
  split
  case isTrue =>
    refine ⟨_, rfl, ?_⟩
    rw [Operator.visible_fuse, Piece.visible_pieces]
  case isFalse => exact ⟨_, rfl, Piece.visible_pieces text⟩

end Lexer

namespace Value

theorem exists_foldl_distinct (spellings kept : List String) :
    ∃ found : List String,
      (spellings.map text).foldl
        (fun kept value =>
          if kept.any (isSameMember View.empty · value) then kept else value :: kept)
        (kept.map text) = found.map text ∧
      ∀ spelling, spelling ∈ found ↔ spelling ∈ kept ∨ spelling ∈ spellings := by
  induction spellings generalizing kept with
  | nil => exact ⟨kept, rfl, by simp⟩
  | cons spelling spellings ih =>
    have held : (kept.map text).any (isSameMember View.empty · (text spelling)) =
        kept.contains spelling := by
      rw [List.any_map, List.contains_eq_any_beq]
      congr 1
      funext other
      simp [BEq.comm]
    rw [List.map_cons, List.foldl_cons, held]
    by_cases known : spelling ∈ kept
    · obtain ⟨found, folds, members⟩ := ih kept
      refine ⟨found, by simpa [known] using folds, fun other => (members other).trans ?_⟩
      rw [List.mem_cons, or_left_comm]
      exact ⟨.inr, fun either => either.elim (fun same => .inl (same ▸ known)) id⟩
    · obtain ⟨found, folds, members⟩ := ih (spelling :: kept)
      refine ⟨found, by simpa [known] using folds, fun other => (members other).trans ?_⟩
      rw [List.mem_cons, List.mem_cons, or_assoc, or_left_comm]

end Value

namespace Settings

def ofSpellings (spellings : List String) (fuses : Bool) : Settings :=
  ⟨some (.list (spellings.map .text)), none, some (.bool fuses), []⟩

theorem exists_lexer_ofSpellings (spellings : List String) (fuses : Bool) (view : View) :
    ∃ lexer, (ofSpellings spellings fuses).lexer view = .ok lexer ∧ lexer.cutter = .standard ∧
      lexer.fuses.isTrue view = fuses ∧
      ∀ spelling, lexer.isOperator spelling = spellings.contains spelling := by
  have settled : (spellings.map Value.text).all Value.isSettled = true := by
    rw [List.all_map]
    exact List.all_eq_true.mpr fun _ _ => rfl
  have table : tableOf view (ofSpellings spellings fuses).operators =
      .ok (Value.distinct (spellings.map .text)) := by
    simp only [ofSpellings, tableOf, members, Value.elements, Value.elements?, bind, Except.bind,
      settled]
    rfl
  have accepted : (ofSpellings spellings fuses).lexer view =
      .ok ⟨Value.distinct (spellings.map .text), .standard, .bool fuses⟩ := by
    rw [lexer, table]
    rfl
  refine ⟨_, accepted, rfl, rfl, fun spelling => ?_⟩
  obtain ⟨found, folds, members⟩ := Value.exists_foldl_distinct spellings []
  have distinct : Value.distinct (spellings.map .text) = (found.map .text).reverse :=
    congrArg List.reverse folds
  rw [Lexer.isOperator, distinct, List.any_reverse, List.any_map, Bool.eq_iff_iff,
    List.contains_iff_mem, List.any_eq_true]
  simp [members]

end Settings

namespace Workspace

/-- A sequence of `text` can be made, and what it is rendered as has the visible characters of the
text, all of them and in their order. -/
def KeepsVisible (w : Workspace) (host : Host) (text : String) (settings : Settings) : Prop :=
  let made := w.perform host (.newSequence (.text text) settings)
  made.2.answer = .ok (.sequence w.sequences.length) ∧
    ∃ rendered, (made.1.perform host (.ofSequence w.sequences.length .render)).2.answer =
        .ok (.text rendered) ∧ visible rendered = visible text

theorem keepsVisible_of_standard {w : Workspace} {settings : Settings} {lexer : Lexer}
    (accepted : settings.lexer w.view = .ok lexer) (standard : lexer.cutter = .standard)
    (host : Host) (text : String) : w.KeepsVisible host text settings := by
  obtain ⟨tokens, lexed, kept⟩ := lexer.exists_tokens_of_standard standard host w.view text
  have plans : (w.plan host (.newSequence (.text text) settings)).answer =
      .ok (.addSequence ⟨tokens.map some, lexer.used⟩) := by
    rw [plan, newSequence, accepted, Attempt.liftM_ok, pure_bind, Attempt.answer_bind_of_ok lexed]
    rfl
  obtain ⟨after, answers⟩ := perform_of_ok plans
  refine ⟨answers, _, congrArg (·.2.answer) (perform_render ..), ?_⟩
  have entries : (w.perform host (.newSequence (.text text) settings)).1.entries
      w.sequences.length = tokens.map some := by
    rw [after]
    exact (w.entries_addSequence _ _).trans (if_pos rfl)
  rw [entries, Entries.visible_render, List.flatMap_map]
  exact kept

/-- Whatever table of operators a sequence is given, and whether they are fused or not, no visible
character of its text is lost, doubled or moved when it is rendered. -/
theorem visible_characters_kept (w : Workspace) (host : Host) (text : String) :
    (∀ settings lexer, settings.lexer w.view = .ok lexer → lexer.cutter = .standard →
      w.KeepsVisible host text settings) ∧
    ∀ (spellings : List String) (fuses : Bool),
      (∃ lexer, (Settings.ofSpellings spellings fuses).lexer w.view = .ok lexer ∧
        lexer.cutter = .standard ∧ lexer.fuses.isTrue w.view = fuses ∧
        ∀ spelling, lexer.isOperator spelling = spellings.contains spelling) ∧
      w.KeepsVisible host text (Settings.ofSpellings spellings fuses) := by
  refine ⟨fun settings lexer accepted standard => ?_, fun spellings fuses => ?_⟩
  · exact keepsVisible_of_standard accepted standard host text
  · refine ⟨Settings.exists_lexer_ofSpellings spellings fuses w.view, ?_⟩
    obtain ⟨lexer, accepted, standard, -⟩ :=
      Settings.exists_lexer_ofSpellings spellings fuses w.view
    exact keepsVisible_of_standard accepted standard host text

/-- Operators with spaces and with quotation marks in them, and one table with a number as well. -/
theorem visible_characters_kept_by_odd_operators :
    let host : Host := ⟨fun _ => .ok, fun _ _ => .ok⟩
    let text := "\t= =\n'a b' 'c' @ '"
    let mixed : Settings := ⟨some (.tuple [.text "= =", .int 3]), none, none, [.text "@'"]⟩
    let lexer : Lexer := ⟨[.text "= =", .int 3, .text "@", .text "'"], .standard, .bool true⟩
    mixed.lexer empty.view = .ok lexer ∧ lexer.cutter = .standard ∧
      empty.KeepsVisible host text mixed ∧
      empty.KeepsVisible host text (Settings.ofSpellings ["= =", "'a b' 'c'", "@'"] true) ∧
      Operator.fuse ["= =", "'a b' 'c'", "@'"].contains (Piece.pieces text) =
        ["= =", "'a b' 'c'", "@'"] := by
  intro host text mixed lexer
  have accepted : mixed.lexer empty.view = .ok lexer := by rfl
  obtain ⟨settings, spellings⟩ := visible_characters_kept empty host text
  exact ⟨accepted, rfl, settings mixed lexer accepted rfl,
    (spellings ["= =", "'a b' 'c'", "@'"] true).2, by decide +kernel⟩

end Workspace

end TokenEditor
