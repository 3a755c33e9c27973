import TokenEditor.Proofs.Value.Shown
import TokenEditor.Proofs.Workspace.Effects

/-!
# Gaps

A gap is an empty place or an empty token. Missing items and empty texts are dropped from what is to
be written before anything is turned into text, so an edit makes gaps of sequences that render to
nothing, and of nothing else. It makes just one of each, and takes away those that it replaces.
-/

namespace TokenEditor

open Operator

namespace Entries

theorem gaps_append (entries others : List Entry) :
    gaps (entries ++ others) = gaps entries + gaps others :=
  List.countP_append

theorem gaps_map_some (run : List String) : gaps (run.map some) = run.count "" := by
  rw [gaps, List.countP_map, List.count]
  apply List.countP_congr
  intro token _
  simp [isGap]

theorem gaps_splice {entries : List Entry} {start stop : Nat} (run : List String)
    (ordered : start ≤ stop) :
    gaps (splice entries start stop run) + gaps (window entries start stop) =
      gaps entries + run.count "" := by
  have parts : entries = entries.take start ++ window entries start stop ++ entries.drop stop := by
    have kept : (entries.take stop).take start = entries.take start := by
      rw [List.take_take, Nat.min_eq_left ordered]
    rw [window, ← kept, List.take_append_drop, List.take_append_drop]
  have whole := congrArg gaps parts
  rw [gaps_append, gaps_append] at whole
  rw [splice, gaps_append, gaps_append, gaps_map_some, whole]
  omega

end Entries

namespace Payload

theorem written?_eq_none_iff (view : View) (item : Value) :
    written? view item = none ↔ item = .null ∨ item = .text "" := by
  unfold written?
  split
  case h_1 => simp
  case h_2 s => by_cases empty : s = "" <;> simp [empty]
  case h_3 noNull noText =>
    refine iff_of_false (by simp) ?_
    rintro (same | same)
    · exact noNull same
    · exact noText "" same

end Payload

namespace Workspace

/-- An item that is written as an empty token: a sequence with no entry but gaps. The name of a
cursor that is not there would be another, but nobody is given one. -/
def isHollow (w : Workspace) : Value → Bool
  | .sequence id => (w.entries id).all Entries.isGap
  | .item id => w.items.length ≤ id
  | .range id => w.ranges.length ≤ id
  | _ => false

theorem itemText_view_eq_empty_iff (w : Workspace) (id : ItemId) :
    w.view.itemText id = "" ↔ w.items.length ≤ id := by
  unfold view
  cases depth : w.items.length + w.ranges.length with
  | zero => exact iff_of_true rfl (by omega)
  | succ depth =>
    simp only [viewWithin, itemText]
    split
    case h_1 cursor found =>
      have within := (List.getElem?_eq_some_iff.mp found).1
      exact iff_of_false (enclosed_ne_empty _ _ (by decide)) (by omega)
    case h_2 missing => exact iff_of_true rfl (List.getElem?_eq_none_iff.mp missing)

theorem rangeText_view_eq_empty_iff (w : Workspace) (id : RangeId) :
    w.view.rangeText id = "" ↔ w.ranges.length ≤ id := by
  unfold view
  cases depth : w.items.length + w.ranges.length with
  | zero => exact iff_of_true rfl (by omega)
  | succ depth =>
    simp only [viewWithin, rangeText]
    split
    case h_1 cursor found =>
      have within := (List.getElem?_eq_some_iff.mp found).1
      exact iff_of_false (enclosed_ne_empty _ _ (enclosed_ne_empty _ _ (by decide))) (by omega)
    case h_2 missing => exact iff_of_true rfl (List.getElem?_eq_none_iff.mp missing)

theorem written?_eq_empty_iff (w : Workspace) (item : Value) :
    Payload.written? w.view item = some "" ↔ w.isHollow item = true := by
  have shown := Value.shown_eq_empty_iff w.view item
  cases item with
  | null => simp [Payload.written?, isHollow]
  | text s => by_cases empty : s = "" <;> simp [Payload.written?, isHollow, empty]
  | sequence id => simpa [Payload.written?, isHollow] using shown
  | item id => simpa [Payload.written?, isHollow, itemText_view_eq_empty_iff] using shown
  | range id => simpa [Payload.written?, isHollow, rangeText_view_eq_empty_iff] using shown
  | _ => simpa [Payload.written?, isHollow] using shown

theorem count_written (w : Workspace) (items : List Value) :
    (items.filterMap (Payload.written? w.view)).count "" = items.countP w.isHollow := by
  rw [List.count_filterMap]
  apply List.countP_congr
  intro item _
  simp [written?_eq_empty_iff]

section Performing

variable {w : Workspace} {host : Host} {request : Request}

/-- An edit makes a gap of each hollow item, and takes away the gaps that it replaces. -/
theorem gaps_perform_of_splice {edit : Edit} {items : List Value}
    (plans : (w.plan host request).answer = .ok (.splice edit))
    (held : edit.owner < w.sequences.length) (ordered : edit.start ≤ edit.stop)
    (run : edit.run = items.filterMap (Payload.written? w.view)) :
    Entries.gaps ((w.perform host request).1.entries edit.owner) +
        Entries.gaps (Entries.window (w.entries edit.owner) edit.start edit.stop) =
      Entries.gaps (w.entries edit.owner) + items.countP w.isHollow := by
  rw [entries_perform_of_splice plans held, if_pos rfl, Edit.result,
    Entries.gaps_splice edit.run ordered, run, count_written]

/-- Nothing is offered that is written as an empty token. -/
def OffersSolid (w : Workspace) (host : Host) (request : Request) : Prop :=
  ∀ items, w.offered? host request = some items → ∀ item ∈ items, w.isHollow item = false

theorem gaps_perform_le (solid : w.OffersSolid host request) {id : SequenceId}
    (held : id < w.sequences.length) :
    Entries.gaps ((w.perform host request).1.entries id) ≤ Entries.gaps (w.entries id) := by
  by_cases spares : Spares (w.plan host request)
  · exact Nat.le_of_eq (congrArg Entries.gaps (entries_perform_of_spares spares held))
  · obtain ⟨edit, plans⟩ := not_forall_not.mp spares
    by_cases target : edit.owner = id
    · subst target
      obtain ⟨items, offers, run, ordered, -⟩ := offered?_of_splice plans
      have balance := gaps_perform_of_splice plans held ordered run
      have none : items.countP w.isHollow = 0 := by
        rw [List.countP_eq_zero]
        intro item member
        simp [solid items offers item member]
      omega
    · have kept := (entries_perform_of_splice plans held).trans (if_neg target)
      exact Nat.le_of_eq (congrArg Entries.gaps kept)

end Performing

def Solid (host : Host) : Workspace → List Request → Prop
  | _, [] => True
  | w, request :: rest => w.OffersSolid host request ∧ Solid host (w.perform host request).1 rest

theorem gaps_performAll_le {host : Host} {requests : List Request} {w : Workspace}
    (solid : Solid host w requests) {id : SequenceId} (held : id < w.sequences.length) :
    Entries.gaps ((w.performAll host requests).entries id) ≤ Entries.gaps (w.entries id) := by
  induction requests generalizing w with
  | nil => exact Nat.le_refl _
  | cons request rest ih =>
    have kept := ih solid.2 (Nat.lt_of_lt_of_le held (length_sequences_perform w host request))
    exact Nat.le_trans kept (gaps_perform_le solid.1 held)

theorem gaps_perform_newSequence (w : Workspace) (host : Host) (text : String) :
    Entries.gaps ((w.perform host (.newSequence (.text text) Settings.standard)).1.entries
      w.sequences.length) = 0 := by
  have written : ∀ token ∈ fuse isStock (Piece.pieces text), token ≠ "" :=
    ne_empty_of_mem_fuse (ne_empty_of_mem_pieces text)
  rw [perform_newSequence, entries_addSequence, if_pos rfl, Entries.gaps_map_some,
    List.count_eq_zero]
  exact fun member => written "" member rfl

theorem perform_of_nothing_offered {w : Workspace} {host : Host} {request : Request}
    {offering : Attempt Offer} {offer : Offer} {index : Value} {items : List Value}
    (offers : w.offer? host request = some offering) (reached : offering.answer = .ok offer)
    (opening : offer.opening = .point index)
    (inside : w.checkBounds offer.owner index index = .ok ())
    (found : Payload.items w.view offer.run = .ok items)
    (nothing : ∀ item ∈ items, item = .null ∨ item = .text "") :
    (w.perform host request).2.answer = .ok .null ∧ SameContent w (w.perform host request).1 := by
  have written : Payload.written w.view offer.run = .ok [] := by
    refine (Payload.written_eq_ok_iff ..).mpr ⟨items, found, List.filterMap_eq_nil_iff.mpr ?_⟩
    exact fun item member => (Payload.written?_eq_none_iff w.view item).mpr (nothing item member)
  have accepts : w.accept offer = .ok (.nothing .null) := by
    rw [accept, opening]
    simp only [insertAt, inside, written]
    rfl
  have planned : (w.plan host request).answer = .ok (.nothing .null) := by
    rw [plan_of_offer? offers]
    exact Attempt.answer_bind_eq_ok.mpr ⟨offer, reached, by rw [accepts]; rfl⟩
  rw [perform_eq_finish, finish, planned]
  exact ⟨rfl, sameContent_afterEvents w _ _⟩

/-- Every token that an edit writes is written of an item and is not empty, save that a hollow item
is written as an empty token. So gaps never become more while nothing hollow is offered, a sequence
that was lexed has none, and an insertion of nothing but missing items and empty texts changes
nothing. -/
theorem edits_write_tokens_of_solid_items (host : Host) :
    (∀ (w : Workspace) (request : Request) (edit : Edit),
      (w.plan host request).answer = .ok (.splice edit) → edit.owner < w.sequences.length →
      ∃ items, w.offered? host request = some items ∧
        edit.run = items.filterMap (Payload.written? w.view) ∧
        edit.run.count "" = items.countP w.isHollow ∧
        (w.perform host request).1.entries edit.owner = edit.result (w.entries edit.owner) ∧
        Entries.gaps ((w.perform host request).1.entries edit.owner) +
            Entries.gaps (Entries.window (w.entries edit.owner) edit.start edit.stop) =
          Entries.gaps (w.entries edit.owner) + items.countP w.isHollow) ∧
    (∀ (w : Workspace) (requests : List Request) (id : SequenceId), id < w.sequences.length →
      Solid host w requests →
      Entries.gaps ((w.performAll host requests).entries id) ≤ Entries.gaps (w.entries id)) ∧
    (∀ (w : Workspace) (text : String) (requests : List Request),
      let lexed := w.perform host (.newSequence (.text text) Settings.standard)
      lexed.2.answer = .ok (.sequence w.sequences.length) ∧
        (Solid host lexed.1 requests →
          Entries.gaps ((lexed.1.performAll host requests).entries w.sequences.length) = 0)) ∧
    ∀ (w : Workspace) (request : Request) (offering : Attempt Offer) (offer : Offer)
      (index : Value) (items : List Value),
      w.offer? host request = some offering → offering.answer = .ok offer →
      offer.opening = .point index → w.checkBounds offer.owner index index = .ok () →
      Payload.items w.view offer.run = .ok items →
      (∀ item ∈ items, item = .null ∨ item = .text "") →
      (w.perform host request).2.answer = .ok .null ∧
        SameContent w (w.perform host request).1 := by
  refine ⟨fun w request edit plans held => ?_, fun w requests id held solid =>
    gaps_performAll_le solid held, fun w text requests => ?_, fun w request offering offer index
    items => perform_of_nothing_offered⟩
  · obtain ⟨items, offers, run, ordered, -⟩ := offered?_of_splice plans
    refine ⟨items, offers, run, ?_, ?_, gaps_perform_of_splice plans held ordered run⟩
    · rw [run, count_written]
    · exact (entries_perform_of_splice plans held).trans (if_pos rfl)
  · intro lexed
    refine ⟨congrArg (·.2.answer) (perform_newSequence w host text), fun solid => ?_⟩
    have held : w.sequences.length < lexed.1.sequences.length := by
      rw [show lexed = _ from perform_newSequence w host text, length_addSequence]
      exact Nat.lt_succ_self _
    have fresh := gaps_perform_newSequence w host text
    exact Nat.eq_zero_of_le_zero (fresh ▸ gaps_performAll_le solid held)

theorem edits_write_tokens_of_solid_items_beside_gap :
    let host : Host := ⟨fun _ => .ok, fun _ _ => .ok⟩
    let w : Workspace :=
      ⟨[⟨[some "a", none], Lexer.standard⟩, ⟨[none, some "b"], Lexer.standard⟩], [], []⟩
    let run := Value.list [.sequence 1, .null, .int 7, .list []]
    let replacing := Request.ofSequence 0 (.replaceRange (.int 1) (.int 2) run)
    let inserting := Request.ofSequence 0 (.insertAt (.int 2) (.list [.null, .text ""]))
    let lexed := w.perform host (.newSequence (.text "c <= d") Settings.standard)
    (w.perform host replacing).1.entries 0 = [some "a", some "b", some "7", some "[]"] ∧
      Entries.gaps ((w.perform host replacing).1.entries 0) + 1 = 1 + 0 ∧
      Solid host w [replacing, inserting] ∧
      Entries.gaps ((w.performAll host [replacing, inserting]).entries 0) ≤ 1 ∧
      Entries.gaps ((lexed.1.performAll host [inserting]).entries 2) = 0 ∧
      (w.perform host inserting).2.answer = .ok .null ∧
      SameContent w (w.perform host inserting).1 := by
  intro host w run replacing inserting lexed
  obtain ⟨writes, runs, lexes, inserts⟩ := edits_write_tokens_of_solid_items host
  have plans : (w.plan host replacing).answer =
      .ok (.splice ⟨0, .int 1, 1, 2, ["b", "7", "[]"]⟩) := by rfl
  have held : 0 < w.sequences.length := by decide
  obtain ⟨items, offers, -, -, entries, balance⟩ := writes w replacing _ plans held
  obtain rfl := Option.some.inj offers
  have replaces : w.OffersSolid host replacing := by
    intro items offers item member
    obtain rfl := Option.some.inj offers
    simp only [List.mem_cons, List.not_mem_nil, or_false] at member
    rcases member with rfl | rfl | rfl | rfl <;> rfl
  have insertsNothing : ∀ after : Workspace, after.OffersSolid host inserting := by
    intro after items offers item member
    obtain rfl := Option.some.inj offers
    simp only [List.mem_cons, List.not_mem_nil, or_false] at member
    rcases member with rfl | rfl <;> rfl
  have solid : Solid host w [replacing, inserting] := ⟨replaces, insertsNothing _, trivial⟩
  refine ⟨entries, balance, solid, runs w _ 0 held solid,
    (lexes w "c <= d" [inserting]).2 ⟨insertsNothing _, trivial⟩, ?_⟩
  exact inserts w inserting _ _ (.int 2) [.null, .text ""] rfl rfl rfl rfl rfl (by simp)

/-- A sequence without entries is no missing item and no empty text, and is written as one. -/
theorem gap_of_hollow_sequence :
    let host : Host := ⟨fun _ => .ok, fun _ _ => .ok⟩
    let w : Workspace := ⟨[⟨[some "a"], Lexer.standard⟩, ⟨[], Lexer.standard⟩], [], []⟩
    let inserting := Request.ofSequence 0 (.insertAt (.int 0) (.list [.sequence 1]))
    (w.plan host inserting).answer = .ok (.splice ⟨0, .int 0, 0, 0, [""]⟩) ∧
      (w.perform host inserting).2.answer = .ok (.range 0) ∧
      (w.perform host inserting).1.entries 0 = [some "", some "a"] ∧
      Entries.gaps (w.entries 0) = 0 ∧
      Entries.gaps ((w.perform host inserting).1.entries 0) = 1 :=
  ⟨rfl, rfl, rfl, rfl, rfl⟩

end Workspace

end TokenEditor
