import TokenEditor.Proofs.Workspace.Extending

/-!
# Blocks

A block is a stretch of accepted places that is part of no longer one. Forward from any of its
places it goes to its end, and backward to its beginning; so it is selected from each of them, by a
selection and an extension to the left.
-/

namespace TokenEditor

namespace Growth

/-- A stretch of places that are all accepted, and of which no longer stretch is a part. -/
structure Block (p : Entry → Int → Bool) (entries : List Entry) (first last : Int) : Prop where
  nonempty : first < last
  accepted : AllAccepted p entries first last
  maximal : ∀ earlier later, earlier ≤ first → last ≤ later → AllAccepted p entries earlier later →
    earlier = first ∧ later = last

section Blocks

variable {p : Entry → Int → Bool} {entries : List Entry} {first last place : Int}

theorem block_of_ends (accepts : Accepts p entries place)
    (least : IsLeast {first | AllAccepted p entries first (place + 1)} first)
    (greatest : IsGreatest {last | AllAccepted p entries place last} last) :
    Block p entries first last := by
  have starts := le_of_isLeast accepts least
  have stops := lt_of_isGreatest accepts greatest
  refine ⟨by omega, fun other after before => ?_, fun earlier later before behind all => ?_⟩
  · by_cases side : other ≤ place
    · exact least.1 other after (by omega)
    · exact greatest.1 other (by omega) before
  · have reached : first ≤ earlier :=
      least.2 fun other after within => all other after (by omega)
    have ended : later ≤ last :=
      greatest.2 fun other after within => all other (by omega) within
    exact ⟨by omega, by omega⟩

theorem Block.before (block : Block p entries first last) : ¬ Accepts p entries (first - 1) := by
  intro accepts
  have longer : AllAccepted p entries (first - 1) last := by
    intro other after before
    by_cases added : other = first - 1
    · exact added ▸ accepts
    · exact block.accepted other (by omega) before
  have same := (block.maximal (first - 1) last (by omega) (Int.le_refl last) longer).1
  omega

theorem Block.behind (block : Block p entries first last) : ¬ Accepts p entries last := by
  intro accepts
  have longer : AllAccepted p entries first (last + 1) := by
    intro other after before
    by_cases added : other = last
    · exact added ▸ accepts
    · exact block.accepted other after (by omega)
  have same := (block.maximal first (last + 1) (Int.le_refl first) (by omega) longer).2
  omega

theorem Block.isLeast (block : Block p entries first last) (after : first ≤ place)
    (before : place < last) :
    IsLeast {first | AllAccepted p entries first (place + 1)} first := by
  apply isLeast_of_rejected (fun other further within => ?_) (by omega) block.before
  exact block.accepted other further (by omega)

theorem Block.isGreatest (block : Block p entries first last) (after : first ≤ place)
    (before : place < last) : IsGreatest {last | AllAccepted p entries place last} last := by
  apply isGreatest_of_rejected (fun other further within => ?_) (by omega) block.behind
  exact block.accepted other (by omega) within

theorem Block.unique (block : Block p entries first last) (after : first ≤ place)
    (before : place < last) {first' last' : Int} (other : Block p entries first' last')
    (after' : first' ≤ place) (before' : place < last') : first' = first ∧ last' = last :=
  ⟨(other.isLeast after' before').unique (block.isLeast after before),
    (other.isGreatest after' before').unique (block.isGreatest after before)⟩

end Blocks

end Growth

namespace Workspace

section Selecting

variable {w : Workspace} {host : Host} {owner : SequenceId} {selector : Value}
  {p : Entry → Int → Bool} (selects : host.Selects w.view (w.entries owner) selector p)
  {first last : Int}

open Growth

include selects

theorem select_finds_some {id : ItemId} {start : Int}
    (held : w.items[id]? = some ⟨.int start, owner⟩) (accepts : Accepts p (w.entries owner) start) :
    ∃ last : Int, IsGreatest {last | AllAccepted p (w.entries owner) start last} last ∧
      w.Finds (w.perform host (.ofItem id (.select selector)))
        (some ⟨.int start, .int last, owner⟩) := by
  obtain ⟨last, greatest, runs⟩ := answer_run_forward selects accepts
  refine ⟨last, greatest, ?_⟩
  have plans : w.plan host (.ofItem id (.select selector)) =
      w.run host owner (.int start) (.int 1) selector >>= fun found =>
        pure (cursorOrNull found) := by
    rw [plan, held]
    rfl
  exact finds_of_run (subject_ofItem held _) rfl plans runs

theorem exists_block {place : Int} (accepts : Accepts p (w.entries owner) place) :
    ∃ first last : Int, Block p (w.entries owner) first last ∧ first ≤ place ∧ place < last := by
  obtain ⟨first, least, -⟩ := answer_run_backward selects accepts
  obtain ⟨last, greatest, -⟩ := answer_run_forward selects accepts
  exact ⟨first, last, block_of_ends accepts least greatest, le_of_isLeast accepts least,
    lt_of_isGreatest accepts greatest⟩

theorem Finds.extendLeft_block {done : Workspace × Attempt Value} {start : Int}
    (finds : w.Finds done (some ⟨.int start, .int last, owner⟩))
    (block : Block p (w.entries owner) first last) (after : first ≤ start) (before : start < last) :
    (w.addRange ⟨.int start, .int last, owner⟩).Finds (through done host (.extendLeft selector))
      (some ⟨.int first, .int last, owner⟩) := by
  obtain ⟨_, least, further⟩ := finds.extendLeft_some selects (block.accepted start after before)
  rw [least.unique (block.isLeast after before)] at further
  exact further

/-- A place that is accepted lies in just one block. From each place of that block, the block is
what selecting forward and extending the result to the left comes to; extending it further to the
left gives the same range again, and extending it to the right gives none. -/
theorem block_selected_from_each_place {i : Int} (accepts : Accepts p (w.entries owner) i) :
    ∃ first last : Int,
      (∀ a b, (Block p (w.entries owner) a b ∧ a ≤ i ∧ i < b) ↔ a = first ∧ b = last) ∧
      ∀ (id : ItemId) (j : Int), w.items[id]? = some ⟨.int j, owner⟩ → first ≤ j → j < last →
        let block : RangeCursor := ⟨.int first, .int last, owner⟩
        let selected := w.perform host (.ofItem id (.select selector))
        let extended := through selected host (.extendLeft selector)
        rangeOf extended = .ok (some block) ∧
          rangeOf (through extended host (.extendLeft selector)) = .ok (some block) ∧
          rangeOf (through extended host (.extendRight selector)) = .ok none := by
  obtain ⟨first, last, block, after, before⟩ := exists_block selects accepts
  refine ⟨first, last, fun a b => ⟨?_, ?_⟩, ?_⟩
  · rintro ⟨other, after', before'⟩
    exact block.unique after before other after' before'
  · rintro ⟨rfl, rfl⟩
    exact ⟨block, after, before⟩
  · intro id j held after before _ selected extended
    obtain ⟨_, greatest, forward⟩ := select_finds_some selects held (block.accepted j after before)
    rw [greatest.unique (block.isGreatest after before)] at forward
    have whole := forward.extendLeft_block selects block after before
    have later := selects_addRange selects ⟨.int j, .int last, owner⟩
    refine ⟨whole.rangeOf, ?_, ?_⟩
    · exact (whole.extendLeft_block later block (Int.le_refl first) block.nonempty).rangeOf
    · exact (whole.extendRight_none later block.behind).rangeOf

end Selecting

/-- The predicate answers with the place, which is no truth at the first one, unless there is a gap.
The block between is selected from both of its places. -/
theorem block_selected_from_each_place_before_gap :
    let host : Host := ⟨fun _ => .ok, fun _ entry index =>
      match entry with
      | .null => .ok .null
      | _ => .ok index⟩
    let p : Entry → Int → Bool := fun entry place => entry.isSome && place != 0
    let entries : List Entry := [some "a", some "b", some "c", none, some "d"]
    let w : Workspace := ⟨[⟨entries, Lexer.standard⟩], [⟨.int 1, 0⟩, ⟨.int 2, 0⟩], []⟩
    let extended := fun id =>
      through (w.perform host (.ofItem id (.select (.predicate 0)))) host
        (.extendLeft (.predicate 0))
    host.Selects w.view entries (.predicate 0) p ∧ Growth.Accepts p entries 2 ∧
      rangeOf (extended 0) = .ok (some ⟨.int 1, .int 3, 0⟩) ∧
      rangeOf (extended 1) = .ok (some ⟨.int 1, .int 3, 0⟩) ∧
      rangeOf (through (extended 1) host (.extendLeft (.predicate 0))) =
        .ok (some ⟨.int 1, .int 3, 0⟩) ∧
      rangeOf (through (extended 0) host (.extendRight (.predicate 0))) = .ok none := by
  intro host p entries w extended
  have judges (place : Int) (inside : Growth.Inside entries place) : ∃ answer,
      host.judge 0 (.ofEntry (Growth.entryAt entries place)) (.int place) = .ok answer ∧
        answer.isTrue w.view = p (Growth.entryAt entries place) place := by
    obtain ⟨first, last⟩ := inside
    have among : place = 0 ∨ place = 1 ∨ place = 2 ∨ place = 3 ∨ place = 4 := by
      have length : entries.length = 5 := rfl
      omega
    rcases among with rfl | rfl | rfl | rfl | rfl <;> exact ⟨_, rfl, rfl⟩
  have selects : host.Selects w.view entries (.predicate 0) p := .predicate judges
  have accepts : Growth.Accepts p entries 2 := ⟨by decide, rfl⟩
  obtain ⟨first, last, unique, selected⟩ :=
    @block_selected_from_each_place w host 0 (.predicate 0) p selects 2 accepts
  obtain ⟨-, after, before⟩ := (unique first last).mpr ⟨rfl, rfl⟩
  obtain ⟨second, again, -⟩ := selected 1 2 rfl after before
  have found : rangeOf (extended 1) = .ok (some ⟨.int 1, .int 3, 0⟩) := by
    dsimp only [extended, w, host, entries]
    rfl
  cases second.symm.trans found
  obtain ⟨one, -, beyond⟩ := selected 0 1 rfl (by decide) (by decide)
  exact ⟨selects, accepts, one, second, again, beyond⟩

end Workspace

end TokenEditor
