import TokenEditor.Proofs.Workspace.Gaps
import TokenEditor.Proofs.Workspace.Widening

/-!
# Edits of one place and of a range

The edits of a cursor at one place have their own ways with what they are given, and so has the edit
of a range. Yet a token is replaced as the range that it is selected as, and what is inserted in
front of a place replaces the empty range there, unless there is nothing to write.
-/

namespace TokenEditor

/-- An item that is not written at all. -/
def Value.isDropped : Value → Bool
  | null => true
  | text s => s == ""
  | _ => false

theorem Value.isDropped_iff (item : Value) :
    item.isDropped = true ↔ item = .null ∨ item = .text "" := by
  cases item <;> simp [isDropped]

theorem Payload.filterMap_written?_eq_nil_iff (view : View) (items : List Value) :
    items.filterMap (written? view) = [] ↔ ∀ item ∈ items, item.isDropped = true := by
  rw [List.filterMap_eq_nil_iff]
  simp only [written?_eq_none_iff, Value.isDropped_iff]

namespace Growth

theorem select_null (host : Host) (view : View) {entries : List Entry} {start : Value}
    {place : Nat} (counts : start.whole? = some (place : Int)) (within : place < entries.length) :
    select host view entries start (.int 1) .null start =
      pure (some (start, .int (place + 1 : Nat))) := by
  have bounds : (0 : Int) ≤ place ∧ (place : Int) < entries.length := by omega
  have met : Stride.met ⟨true, true⟩ entries place =
      (entries[place], place) :: (entries.drop (place + 1)).zipIdx (place + 1) := by
    rw [Stride.met, if_pos rfl, List.drop_eq_getElem_cons within, List.zipIdx_cons]
  have here : start.isSame view start = true := by
    rw [Value.isSame_of_whole? view counts counts, decide_eq_true_eq]
  have further : (Value.int (place + 1 : Nat)).isSame view start = false := by
    rw [Value.isSame_of_whole? view (Value.whole?_int _) counts, decide_eq_false_iff_not]
    omega
  rw [select_eq_grow rfl (stride_forward view), grow, Value.place?_of_whole? counts,
    if_pos bounds]
  simp only [Attempt.liftM_ok, pure_bind, Int.toNat_natCast, met, admitted, if_true,
    Criterion.admits, here]
  cases entries.drop (place + 1) with
  | nil => rfl
  | cons next others =>
    simp only [List.zipIdx_cons, admitted, if_neg (Nat.succ_ne_self place), pure_bind, further]
    rfl

end Growth

namespace Workspace

section Editing

variable {w : Workspace} (owner : SequenceId) {index stop : Value} {i : Int}

theorem replaceAt_eq_replaceRange (counts : index.whole? = some i)
    (stops : stop.whole? = some (i + 1)) (inside : 0 ≤ i ∧ i < (w.entries owner).length)
    (run : Value) : w.replaceAt owner index run = w.replaceRange owner index stop run := by
  have bounds : 0 ≤ i ∧ i ≤ i + 1 ∧ i + 1 ≤ (w.entries owner).length := by omega
  have behind : (i + 1).toNat = i.toNat + 1 := by omega
  rw [replaceAt, Value.place?_of_whole? counts, if_pos inside, replaceRange,
    checkBounds_of_whole? owner counts stops, if_pos bounds]
  cases Payload.written w.view run with
  | error fault => rfl
  | ok written =>
    refine Eq.trans ?_ (spliceAt_of_whole? owner counts stops).symm
    rw [behind]
    rfl

theorem insertAt_eq_replaceRange (counts : index.whole? = some i)
    (inside : 0 ≤ i ∧ i ≤ (w.entries owner).length) {run : Value} {written : List String}
    (defined : Payload.written w.view run = .ok written) (some : written ≠ []) :
    w.insertAt owner index run = w.replaceRange owner index index run := by
  have bounds : 0 ≤ i ∧ i ≤ i ∧ i ≤ (w.entries owner).length := ⟨inside.1, Int.le_refl i, inside.2⟩
  rw [insertAt_of_whole? owner counts defined, if_pos inside, if_neg some,
    replaceRange_of_whole? owner counts counts defined, if_pos bounds]

end Editing

section Listing

variable {w : Workspace} {host : Host} {owner : SequenceId} {payload : Value} {items : List Value}
  (lists : (Payload.listed host (w.lexer owner) w.view payload).answer = .ok items)

include lists

theorem resolve_of_listed (reading : Except Fault Value) :
    w.resolve host owner reading payload =
      Value.list <$> Payload.listed host (w.lexer owner) w.view payload := by
  apply resolve_of_given
  · cases payload with
    | transform callable => cases lists
    | function id => cases lists
    | predicate id => cases lists
    | _ => rfl
  · rintro tokens rfl
    cases lists

theorem insertion_of_listed :
    w.insertion host owner payload =
      Payload.listed host (w.lexer owner) w.view payload >>= fun items =>
        if items.isEmpty then .fail .nothingToInsert else pure (.list items) := by
  cases payload with
  | null => rfl
  | text s => rw [insertion, Payload.listed, bind_assoc]
  | list _ | tuple _ | stream _ | bytes _ | dict _ | sequence _ => rfl
  | _ => cases lists

end Listing

section Selecting

variable {w : Workspace} {host : Host} {id : ItemId} {cursor : ItemCursor} {place : Nat}

theorem select_finds_place (found : w.items[id]? = some cursor)
    (counts : cursor.index.whole? = some (place : Int))
    (within : place < (w.entries cursor.owner).length) :
    w.Finds (w.perform host (.ofItem id (.select .null)))
      (some ⟨cursor.index, .int (place + 1 : Nat), cursor.owner⟩) := by
  have plans : w.plan host (.ofItem id (.select .null)) =
      w.run host cursor.owner cursor.index (.int 1) .null >>= fun found =>
        pure (cursorOrNull found) := by
    rw [plan, found]
    rfl
  refine finds_of_run (subject_ofItem found _) rfl plans ?_
  rw [run, Growth.select_null host w.view counts within]
  rfl

end Selecting

section Performing

variable {w : Workspace} {host : Host} {payload : Value}

theorem perform_replace_congr {handle other : Handle} {owner : SequenceId}
    (subject : w.subject? handle.read = some owner) (subject' : w.subject? other.read = some owner)
    (uncomputed : payload.isComputed = false)
    (writes : ∀ items, w.writeThrough handle items = w.writeThrough other items) :
    w.perform host (handle.replace payload) = w.perform host (other.replace payload) := by
  have subjects : ∀ handle : Handle,
      w.subject? (handle.replace payload) = w.subject? handle.read := by
    rintro (id | id) <;> rfl
  rw [perform_eq_finish, perform_eq_finish, subjects, subjects, subject, subject',
    plan_replace_of_uncomputed subject uncomputed (.ok .null),
    plan_replace_of_uncomputed subject' uncomputed (.ok .null)]
  simp only [writes]

theorem perform_replace_item_eq_range {id : ItemId} {cursor : ItemCursor} {i : Int}
    (found : w.items[id]? = some cursor) (counts : cursor.index.whole? = some i)
    (inside : 0 ≤ i ∧ i < (w.entries cursor.owner).length) {range : RangeId} {stop : Value}
    (lies : w.ranges[range]? = some ⟨cursor.index, stop, cursor.owner⟩)
    (stops : stop.whole? = some (i + 1)) (uncomputed : payload.isComputed = false) :
    w.perform host (.ofItem id (.replace payload)) =
      w.perform host (.ofRange range (.replace payload)) := by
  have one : w.subject? (Handle.item id).read = some cursor.owner := subject_ofItem found _
  have run : w.subject? (Handle.range range).read = some cursor.owner := subject_ofRange lies _
  refine perform_replace_congr one run uncomputed fun items => ?_
  simp only [writeThrough, found, lies]
  exact replaceAt_eq_replaceRange cursor.owner counts stops inside items

theorem Finds.replace_through {id : ItemId} {cursor : ItemCursor} {i : Int}
    {selected : Workspace × Attempt Value}
    (finds : w.Finds selected (some ⟨cursor.index, .int (i + 1), cursor.owner⟩))
    (found : w.items[id]? = some cursor) (counts : cursor.index.whole? = some i)
    (inside : 0 ≤ i ∧ i < (w.entries cursor.owner).length)
    (uncomputed : payload.isComputed = false) :
    through selected host (.replace payload) =
      selected.1.perform host (.ofItem id (.replace payload)) := by
  let range : RangeCursor := ⟨cursor.index, .int (i + 1), cursor.owner⟩
  have still : (w.addRange range).items[id]? = some cursor := found
  have reach : 0 ≤ i ∧ i < ((w.addRange range).entries cursor.owner).length := inside
  rw [finds.through_some, finds.1]
  exact (perform_replace_item_eq_range still counts reach (w.getElem?_addRange range) rfl
    uncomputed).symm

end Performing

section Replacing

variable {w : Workspace} {host : Host} {id : ItemId} {cursor : ItemCursor} {payload : Value}
  {place : Nat}

theorem answer_plan_replaceItem (found : w.items[id]? = some cursor)
    (counts : cursor.index.whole? = some (place : Int))
    (within : place < (w.entries cursor.owner).length) (uncomputed : payload.isComputed = false) :
    (w.plan host (.ofItem id (.replace payload))).answer =
      (fun tokens => .splice ⟨cursor.owner, cursor.index, place, place + 1, tokens⟩) <$>
        w.tokensFor host cursor.owner [] payload := by
  have subject : w.subject? (Handle.item id).read = some cursor.owner := subject_ofItem found _
  have bounds : (0 : Int) ≤ place ∧ (place : Int) < (w.entries cursor.owner).length := by omega
  refine (congrArg Attempt.answer
    (plan_replace_of_uncomputed subject uncomputed (.ok (.ofEntries [])))).trans ?_
  cases resolves : (w.resolve host cursor.owner (.ok (.ofEntries [])) payload).answer with
  | error fault =>
    rw [Attempt.answer_bind_of_error resolves, tokensFor, resolves]
    rfl
  | ok items =>
    obtain ⟨tokens, written⟩ := exists_written_of_resolve resolves
    have settles : w.tokensFor host cursor.owner [] payload = .ok tokens :=
      bind_eq_ok.mpr ⟨items, resolves, written⟩
    rw [Attempt.answer_bind_of_ok resolves, settles]
    simp only [writeThrough, found]
    exact (replaceAt_of_whole? cursor.owner counts written).trans (if_pos bounds)

theorem sameOutcome_replace_addRange (literal : w.LiteralCoordinates)
    (found : w.items[id]? = some cursor) (counts : cursor.index.whole? = some (place : Int))
    (within : place < (w.entries cursor.owner).length) (uncomputed : payload.isComputed = false)
    (named : Payload.NamesOnly host (w.lexer cursor.owner) w.view w.holds payload)
    (range : RangeCursor) :
    w.SameOutcome (w.perform host (.ofItem id (.replace payload)))
      ((w.addRange range).perform host (.ofItem id (.replace payload))) := by
  have entries : (w.addRange range).entries = w.entries := rfl
  have lexers : (w.addRange range).lexer cursor.owner = w.lexer cursor.owner := rfl
  have plans : (w.plan host (.ofItem id (.replace payload))).answer = _ :=
    answer_plan_replaceItem found counts within uncomputed
  have wider : ((w.addRange range).plan host (.ofItem id (.replace payload))).answer = _ :=
    answer_plan_replaceItem found counts within uncomputed
  rw [tokensFor_congr entries lexers (literal.alike_addRange range) [] uncomputed named] at wider
  refine sameOutcome_of_plans entries rfl (wider.trans plans.symm) fun change planned => ?_
  obtain ⟨tokens, -, rfl⟩ := map_eq_ok.mp (plans.symm.trans planned)
  exact ⟨_, rfl⟩

end Replacing

/-- What an insertion comes to if its payload stands for these items: without any it is refused, it
is nothing if none of them is written, and otherwise it is what a replacement is. -/
structure InsertsOrReplaces (w : Workspace) (items : List Value)
    (done replaced : Workspace × Attempt Value) : Prop where
  refused : ∀ fault, done.2.answer = .error fault ↔ fault = .nothingToInsert ∧ items = []
  ignored : done.2.answer = .ok .null ↔ items ≠ [] ∧ ∀ item ∈ items, item.isDropped = true
  unchanged : (∀ item ∈ items, item.isDropped = true) → SameContent w done.1
  written : (∃ item ∈ items, item.isDropped = false) →
    done = replaced ∧ done.2.answer = .ok (.range w.ranges.length)

namespace InsertsOrReplaces

variable {w : Workspace} {items : List Value} {done replaced : Workspace × Attempt Value}

theorem of_refused (answer : done.2.answer = .error .nothingToInsert)
    (same : SameContent w done.1) : w.InsertsOrReplaces [] done replaced where
  refused fault := by
    rw [answer, Except.error.injEq, eq_comm]
    simp
  ignored := by simp [answer]
  unchanged _ := same
  written := by simp

theorem of_ignored (some : items ≠ []) (nothing : ∀ item ∈ items, item.isDropped = true)
    (answer : done.2.answer = .ok .null) (same : SameContent w done.1) :
    w.InsertsOrReplaces items done replaced where
  refused fault := by simp [answer, some]
  ignored := iff_of_true answer ⟨some, nothing⟩
  unchanged _ := same
  written := by
    rintro ⟨item, member, kept⟩
    cases kept.symm.trans (nothing item member)

theorem of_written {item : Value} (member : item ∈ items) (kept : item.isDropped = false)
    (same : done = replaced) (answer : done.2.answer = .ok (.range w.ranges.length)) :
    w.InsertsOrReplaces items done replaced where
  refused fault := by simp [answer, List.ne_nil_of_mem member]
  ignored := by
    refine iff_of_false (by simp [answer]) ?_
    rintro ⟨-, nothing⟩
    cases kept.symm.trans (nothing item member)
  unchanged nothing := by cases kept.symm.trans (nothing item member)
  written _ := ⟨same, answer⟩

end InsertsOrReplaces

section Inserting

variable {w : Workspace} {host : Host} {id : ItemId} {cursor : ItemCursor} {payload : Value}
  {items : List Value} {i : Int}

theorem plan_insertBefore_of_listed (found : w.items[id]? = some cursor)
    (lists : (Payload.listed host (w.lexer cursor.owner) w.view payload).answer = .ok items) :
    w.plan host (.ofItem id (.insertBefore payload)) =
      Payload.listed host (w.lexer cursor.owner) w.view payload >>= fun items =>
        if items = [] then .fail .nothingToInsert
        else liftM (w.insertAt cursor.owner cursor.index (.list items)) := by
  have plans : w.plan host (.ofItem id (.insertBefore payload)) =
      w.insertion host cursor.owner payload >>= fun items =>
        liftM (w.insertAt cursor.owner cursor.index items) := by
    rw [plan, found]
    simp only [planItem, insertFrom_eq_away]
    rfl
  rw [plans, insertion_of_listed lists, bind_assoc]
  apply Attempt.bind_congr_of_ok
  intro items _
  cases items <;> rfl

theorem plan_replaceRange_of_listed {range : RangeId} {cursor : RangeCursor}
    (lies : w.ranges[range]? = some cursor)
    (lists : (Payload.listed host (w.lexer cursor.owner) w.view payload).answer = .ok items) :
    w.plan host (.ofRange range (.replace payload)) =
      Payload.listed host (w.lexer cursor.owner) w.view payload >>= fun items =>
        liftM (w.replaceRange cursor.owner cursor.start cursor.stop (.list items)) := by
  rw [plan, lies]
  simp only [planRange, replaceRun, resolve_of_listed lists]
  exact bind_map_left ..

theorem perform_insertBefore_eq_replace (found : w.items[id]? = some cursor)
    (counts : cursor.index.whole? = some i)
    (inside : 0 ≤ i ∧ i ≤ (w.entries cursor.owner).length) {range : RangeId}
    (lies : w.ranges[range]? = some ⟨cursor.index, cursor.index, cursor.owner⟩)
    (lists : (Payload.listed host (w.lexer cursor.owner) w.view payload).answer = .ok items)
    (written : items.filterMap (Payload.written? w.view) ≠ []) :
    w.perform host (.ofItem id (.insertBefore payload)) =
      w.perform host (.ofRange range (.replace payload)) := by
  have plans : w.plan host (.ofItem id (.insertBefore payload)) =
      w.plan host (.ofRange range (.replace payload)) := by
    rw [plan_insertBefore_of_listed found lists, plan_replaceRange_of_listed lies lists]
    apply Attempt.bind_congr_of_ok
    intro items' lists'
    obtain rfl : items = items' := Except.ok.inj (lists.symm.trans lists')
    have some : items ≠ [] := by
      rintro rfl
      exact written rfl
    rw [if_neg some, insertAt_eq_replaceRange cursor.owner counts inside rfl written]
  rw [perform_eq_finish, perform_eq_finish, subject_ofItem found, subject_ofRange lies, plans]

theorem insertBefore_inserts_or_replaces (found : w.items[id]? = some cursor)
    (counts : cursor.index.whole? = some i)
    (inside : 0 ≤ i ∧ i ≤ (w.entries cursor.owner).length) {range : RangeId}
    (lies : w.ranges[range]? = some ⟨cursor.index, cursor.index, cursor.owner⟩)
    (lists : (Payload.listed host (w.lexer cursor.owner) w.view payload).answer = .ok items) :
    InsertsOrReplaces w items (w.perform host (.ofItem id (.insertBefore payload)))
      (w.perform host (.ofRange range (.replace payload))) := by
  have planned := congrArg Attempt.answer (plan_insertBefore_of_listed found lists)
  rw [Attempt.answer_bind_of_ok lists] at planned
  by_cases empty : items = []
  · subst empty
    obtain ⟨answer, same⟩ := perform_of_error planned
    exact .of_refused answer same
  have inserts : w.insertAt cursor.owner cursor.index (.list items) = _ :=
    insertAt_of_whole? cursor.owner counts rfl
  rw [if_neg empty, inserts, if_pos inside] at planned
  by_cases nothing : items.filterMap (Payload.written? w.view) = []
  · rw [if_pos nothing] at planned
    have answer := answer_perform_of_nothing planned
    have dropped := (Payload.filterMap_written?_eq_nil_iff w.view items).mp nothing
    refine .of_ignored empty dropped answer ?_
    rw [(perform_of_ok planned).1]
    exact sameContent_afterEvents w _ _
  · rw [if_neg nothing] at planned
    have answer := answer_perform_of_splice planned
    have same := perform_insertBefore_eq_replace found counts inside lies lists nothing
    obtain ⟨item, member, kept⟩ : ∃ item ∈ items, item.isDropped = false := by
      simpa using mt (Payload.filterMap_written?_eq_nil_iff w.view items).mpr nothing
    exact .of_written member kept same answer

/-- What stands behind a place is inserted where it stands in front of the next. -/
theorem perform_insertAfter_eq_insertBefore {next : ItemId}
    (found : w.items[id]? = some cursor) (counts : cursor.index.whole? = some i)
    (follows : w.items[next]? = some ⟨.int (i + 1), cursor.owner⟩) :
    w.perform host (.ofItem id (.insertAfter payload)) =
      w.perform host (.ofItem next (.insertBefore payload)) := by
  have away : cursor.away 1 = .ok (.int (i + 1)) := Value.shift_of_whole? counts 1
  rw [perform_eq_finish, perform_eq_finish, subject_ofItem found, subject_ofItem follows, plan,
    plan, found, follows]
  simp only [planItem, insertFrom_eq_away, away]
  rfl

end Inserting

/-- Through a cursor at a place, a token is replaced as through the range that selecting it gives,
also if it has not been selected before. In front of a place the items of a payload are inserted as
they replace the empty range there; without any they are refused, and if none of them is written
nothing happens. Behind a place is in front of the next, wherever that is. -/
theorem item_edits_agree_with_range_edits {w : Workspace} {id : ItemId} {cursor : ItemCursor}
    {i : Int} (found : w.items[id]? = some cursor) (counts : cursor.index.whole? = some i)
    (host : Host) (payload : Value) :
    let entries := w.entries cursor.owner
    let lexer := w.lexer cursor.owner
    let asked := fun request => w.perform host (.ofItem id request)
    (0 ≤ i ∧ i < entries.length → payload.isComputed = false →
      let selected := asked (.select .null)
      let replaced := through selected host (.replace payload)
      w.Finds selected (some ⟨cursor.index, .int (i + 1), cursor.owner⟩) ∧
        replaced = selected.1.perform host (.ofItem id (.replace payload)) ∧
        (w.LiteralCoordinates → Payload.NamesOnly host lexer w.view w.holds payload →
          w.SameOutcome (asked (.replace payload)) replaced)) ∧
    (0 ≤ i ∧ i ≤ entries.length → ∀ range items,
      w.ranges[range]? = some ⟨cursor.index, cursor.index, cursor.owner⟩ →
      (Payload.listed host lexer w.view payload).answer = .ok items →
      w.InsertsOrReplaces items (asked (.insertBefore payload))
        (w.perform host (.ofRange range (.replace payload)))) ∧
    ∀ next, w.items[next]? = some ⟨.int (i + 1), cursor.owner⟩ →
      asked (.insertAfter payload) = w.perform host (.ofItem next (.insertBefore payload)) := by
  intro entries lexer asked
  refine ⟨fun inside uncomputed => ?_, fun inside range items lies lists =>
    insertBefore_inserts_or_replaces found counts inside lies lists, fun next follows =>
    perform_insertAfter_eq_insertBefore found counts follows⟩
  obtain ⟨place, rfl⟩ := Int.eq_ofNat_of_zero_le inside.1
  have within : place < entries.length := Int.ofNat_lt.mp inside.2
  have finds : w.Finds (w.perform host (.ofItem id (.select .null))) _ :=
    select_finds_place found counts within
  intro selected replaced
  have same : replaced = selected.1.perform host (.ofItem id (.replace payload)) :=
    finds.replace_through found counts inside uncomputed
  refine ⟨finds, same, fun literal named => ?_⟩
  rw [same, show selected.1 = _ from finds.1]
  exact sameOutcome_replace_addRange literal found counts within uncomputed named _

/-- At a gap, whose place is given as a truth value, a text is written that is lexed, and items of
which one is a cursor. In front of it, items that can be read once are inserted. -/
theorem item_edits_agree_with_range_edits_at_gap :
    let host : Host := ⟨fun _ => .ok, fun _ _ => .ok⟩
    let w : Workspace := ⟨[⟨[some "a", none, some "b"], Lexer.standard⟩],
      [⟨.bool true, 0⟩, ⟨.int 2, 0⟩], [⟨.bool true, .bool true, 0⟩]⟩
    let asked := fun request => w.perform host (.ofItem 0 request)
    let selected := asked (.select .null)
    let replaced := fun payload => through selected host (.replace payload)
    let named := Value.list [.text "x", .item 1, .null]
    let items := Value.stream [.null, .text "y", .text ""]
    rangeOf selected = .ok (some ⟨.bool true, .int 2, 0⟩) ∧
      w.SameOutcome (asked (.replace (.text "c<=d"))) (replaced (.text "c<=d")) ∧
      w.SameOutcome (asked (.replace named)) (replaced named) ∧
      (asked (.replace named)).1.entries 0 =
        [some "a", some "x", some "ItemCursor(index=2)", some "b"] ∧
      asked (.insertBefore items) = w.perform host (.ofRange 0 (.replace items)) ∧
      (asked (.insertBefore items)).1.entries 0 = [some "a", some "y", none, some "b"] ∧
      (asked (.insertBefore (.text " "))).2.answer = .error .nothingToInsert ∧
      (asked (.insertBefore (.list [.null, .text ""]))).2.answer = .ok .null ∧
      asked (.insertAfter items) = w.perform host (.ofItem 1 (.insertBefore items)) := by
  intro host w asked selected replaced named items
  have agree := fun payload =>
    @item_edits_agree_with_range_edits w 0 ⟨.bool true, 0⟩ 1 rfl rfl host payload
  have literal : w.LiteralCoordinates := by
    refine ⟨fun cursor member => ?_, fun cursor member => ?_⟩
    · simp only [w, List.mem_cons, List.not_mem_nil, or_false] at member
      rcases member with rfl | rfl <;> rfl
    · simp only [w, List.mem_singleton] at member
      subst member
      exact ⟨rfl, rfl⟩
  obtain ⟨finds, -, text⟩ := (agree (.text "c<=d")).1 (by decide) rfl
  obtain ⟨-, -, list⟩ := (agree named).1 (by decide) rfl
  have names : Payload.NamesOnly host Lexer.standard w.view w.holds named :=
    ⟨by decide, fun _ _ texts _ => nomatch texts⟩
  obtain ⟨-, inserts, behind⟩ := agree items
  have writes := (inserts (by decide) 0 _ rfl rfl).written ⟨.text "y", by simp, rfl⟩
  have blank : (Payload.listed host Lexer.standard w.view (.text " ")).answer = .ok [] := by
    have none : Piece.pieces " " = [] := by decide +kernel
    rw [Payload.listed, Lexer.tokens_standard, none]
    rfl
  have refuses := (agree (.text " ")).2.1 (by decide) 0 [] rfl blank
  have ignores := (agree (.list [.null, .text ""])).2.1 (by decide) 0 _ rfl rfl
  refine ⟨finds.rangeOf, text literal (Payload.namesOnly_text_of_standard rfl _),
    list literal names, ?_, writes.1, rfl, (refuses.refused _).mpr ⟨rfl, rfl⟩,
    ignores.ignored.mpr ⟨by simp, by simp [Value.isDropped]⟩, behind 1 rfl⟩
  decide +kernel

end Workspace

end TokenEditor
