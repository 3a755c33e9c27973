import TokenEditor.Proofs.Attempt
import TokenEditor.Proofs.Workspace.Splicing

/-!
# Offers

There are three edits, and seven requests that come to one of them. Such a request offers a run for
one of the edits, and accepting the offer is all that it does with the run. What is accepted is a
splice within the sequence, unless there is nothing to insert.
-/

namespace TokenEditor

/-- The edit for which a run is offered, with its coordinates. -/
inductive Opening where
  | range (start stop : Value)
  | entry (index : Value)
  | point (index : Value)

def ItemCursor.away (cursor : ItemCursor) (distance : Int) : Except Fault Value :=
  if distance = 0 then .ok cursor.index else cursor.index.shift distance

structure Offer where
  owner : SequenceId
  opening : Opening
  run : Value

def Opening.bounds? : Opening → Option (Int × Int)
  | range start stop => do return (← start.whole?, ← stop.whole?)
  | entry index => do
      let i ← index.whole?
      return (i, i + 1)
  | point index => do
      let i ← index.whole?
      return (i, i)

def Opening.index : Opening → Value
  | range start _ => start
  | entry index => index
  | point index => index

namespace Payload

def items (view : View) : Value → Except Fault (List Value)
  | .null => .ok []
  | .text s => .ok [.text s]
  | run => run.elements view

theorem written_eq_ok_iff (view : View) (run : Value) (tokens : List String) :
    written view run = .ok tokens ↔
      ∃ found, items view run = .ok found ∧ found.filterMap (written? view) = tokens := by
  have filtered : written view run = List.filterMap (written? view) <$> items view run := by
    cases run <;> rfl
  rw [filtered]
  cases items view run with
  | error fault => simp [Functor.map, Except.map]
  | ok found => simp [Functor.map, Except.map]

end Payload

namespace Workspace

variable (w : Workspace) (host : Host)

def accept (offer : Offer) : Except Fault Change :=
  match offer.opening with
  | .range start stop => w.replaceRange offer.owner start stop offer.run
  | .entry index => w.replaceAt offer.owner index offer.run
  | .point index => w.insertAt offer.owner index offer.run

def offerFrom (cursor : ItemCursor) (distance : Int) (run : Value) : Attempt Offer := do
  let index ← cursor.away distance
  return ⟨cursor.owner, .point index, ← w.insertion host cursor.owner run⟩

def offerItem (cursor : ItemCursor) (payload : Value) : Attempt Offer := do
  let current := Value.ofEntry <$> w.token cursor
  return ⟨cursor.owner, .entry cursor.index, ← w.resolve host cursor.owner current payload⟩

def offerRun (cursor : RangeCursor) (payload : Value) : Attempt Offer := do
  let current := Value.ofEntries <$> w.window cursor.owner cursor.start cursor.stop
  return ⟨cursor.owner, .range cursor.start cursor.stop,
    ← w.resolve host cursor.owner current payload⟩

/-- The way to the offer of a request; most requests make none. -/
def offer? : Request → Option (Attempt Offer)
  | .ofSequence owner (.replaceRange start stop run) => some (pure ⟨owner, .range start stop, run⟩)
  | .ofSequence owner (.replaceAt index run) => some (pure ⟨owner, .entry index, run⟩)
  | .ofSequence owner (.insertAt index run) => some (pure ⟨owner, .point index, run⟩)
  | .ofItem id (.replace payload) => w.items[id]?.map fun cursor => w.offerItem host cursor payload
  | .ofItem id (.insertBefore run) => w.items[id]?.map fun cursor => w.offerFrom host cursor 0 run
  | .ofItem id (.insertAfter run) => w.items[id]?.map fun cursor => w.offerFrom host cursor 1 run
  | .ofRange id (.replace payload) => w.ranges[id]?.map fun cursor => w.offerRun host cursor payload
  | _ => none

variable {w host}

theorem insertFrom_eq_away (cursor : ItemCursor) (distance : Int) (run : Value) :
    w.insertFrom host cursor distance run = (do
      let index ← cursor.away distance
      let items ← w.insertion host cursor.owner run
      w.insertAt cursor.owner index items) := by
  rw [insertFrom, ItemCursor.away]
  split <;> rfl

theorem selectFrom_eq_away (cursor : ItemCursor) (distance step : Int) (criterion : Value) :
    w.selectFrom host cursor distance step criterion = (do
      let index ← cursor.away distance
      return cursorOrNull (← w.run host cursor.owner index (.int step) criterion)) := by
  rw [selectFrom, ItemCursor.away]
  split <;> rfl

theorem insertFrom_eq_accept (cursor : ItemCursor) (distance : Int) (run : Value) :
    w.insertFrom host cursor distance run =
      w.offerFrom host cursor distance run >>= fun offer => liftM (w.accept offer) := by
  simp only [insertFrom_eq_away, offerFrom, bind_assoc, pure_bind]
  rfl

theorem replaceItem_eq_accept (cursor : ItemCursor) (payload : Value) :
    w.replaceItem host cursor payload =
      w.offerItem host cursor payload >>= fun offer => liftM (w.accept offer) := by
  simp only [replaceItem, offerItem, bind_assoc, pure_bind]
  rfl

theorem replaceRun_eq_accept (cursor : RangeCursor) (payload : Value) :
    w.replaceRun host cursor payload =
      w.offerRun host cursor payload >>= fun offer => liftM (w.accept offer) := by
  simp only [replaceRun, offerRun, bind_assoc, pure_bind]
  rfl

theorem plan_of_offer? {request : Request} {offering : Attempt Offer}
    (offers : w.offer? host request = some offering) :
    w.plan host request = offering >>= fun offer => liftM (w.accept offer) := by
  unfold offer? at offers
  split at offers
  case h_1 =>
    obtain rfl := Option.some.inj offers
    rfl
  case h_2 =>
    obtain rfl := Option.some.inj offers
    rfl
  case h_3 =>
    obtain rfl := Option.some.inj offers
    rfl
  case h_4 id payload =>
    obtain ⟨cursor, found, rfl⟩ := Option.map_eq_some_iff.mp offers
    rw [plan, found]
    exact replaceItem_eq_accept cursor payload
  case h_5 id run =>
    obtain ⟨cursor, found, rfl⟩ := Option.map_eq_some_iff.mp offers
    rw [plan, found]
    exact insertFrom_eq_accept cursor 0 run
  case h_6 id run =>
    obtain ⟨cursor, found, rfl⟩ := Option.map_eq_some_iff.mp offers
    rw [plan, found]
    exact insertFrom_eq_accept cursor 1 run
  case h_7 id payload =>
    obtain ⟨cursor, found, rfl⟩ := Option.map_eq_some_iff.mp offers
    rw [plan, found]
    exact replaceRun_eq_accept cursor payload
  case h_8 => cases offers

theorem exists_accepted_of_plan {request : Request} {offering : Attempt Offer} {change : Change}
    (offers : w.offer? host request = some offering)
    (plans : (w.plan host request).answer = .ok change) :
    ∃ offer events, offering = ⟨.ok offer, events⟩ ∧ w.accept offer = .ok change := by
  rw [plan_of_offer? offers] at plans
  obtain ⟨offer, reached, accepts⟩ := Attempt.answer_bind_eq_ok.mp plans
  obtain ⟨answer, events⟩ := offering
  cases reached
  exact ⟨offer, events, rfl, accepts⟩

/-- A splice fits an offer if it lies within the sequence and writes what is offered. -/
structure Fits (w : Workspace) (owner : SequenceId) (run : Value) (edit : Edit) : Prop where
  target : edit.owner = owner
  ordered : edit.start ≤ edit.stop
  within : edit.stop ≤ (w.entries owner).length
  written : Payload.written w.view run = .ok edit.run

section Accepting

variable {w : Workspace} {owner : SequenceId} {start stop index run : Value} {edit : Edit}

/-- Bounds that have been checked are places in order if a splice can be made between them. -/
theorem exists_places_of_spliceAt {tokens : List String} {change : Change}
    (checked : w.checkBounds owner start stop = .ok ())
    (placed : spliceAt owner start stop tokens = .ok change) :
    ∃ s e : Nat, start.whole? = some (s : Int) ∧ stop.whole? = some (e : Int) ∧ s ≤ e ∧
      e ≤ (w.entries owner).length ∧ change = .splice ⟨owner, start, s, e, tokens⟩ := by
  obtain ⟨s, starts, rest⟩ := bind_eq_ok.mp placed
  obtain ⟨e, stops, done⟩ := bind_eq_ok.mp rest
  rw [Value.whole_eq_ok_iff] at starts stops
  rw [checkBounds_of_whole? owner starts stops] at checked
  split at checked
  case isTrue bounds =>
    obtain ⟨first, rfl⟩ := Int.eq_ofNat_of_zero_le bounds.1
    obtain ⟨last, rfl⟩ := Int.eq_ofNat_of_zero_le (Int.le_trans bounds.1 bounds.2.1)
    cases done
    exact ⟨first, last, starts, stops, Int.ofNat_le.mp bounds.2.1, Int.ofNat_le.mp bounds.2.2, rfl⟩
  case isFalse => cases checked

/-- What is accepted fits the offer and is done between the places that it names, from the
coordinate that was given; only between two entries can there be nothing to do. -/
theorem opened_of_accept {offer : Offer} {change : Change} (accepts : w.accept offer = .ok change) :
    (change = .nothing .null ∧ ∃ index, offer.opening = .point index) ∨
      ∃ edit, change = .splice edit ∧ w.Fits offer.owner offer.run edit ∧
        offer.opening.bounds? = some ((edit.start : Int), (edit.stop : Int)) ∧
        edit.index.whole? = some (edit.start : Int) ∧ edit.index = offer.opening.index := by
  unfold accept at accepts
  split at accepts
  case h_1 start stop opening =>
    obtain ⟨_, checked, rest⟩ := bind_eq_ok.mp accepts
    obtain ⟨tokens, written, placed⟩ := bind_eq_ok.mp rest
    obtain ⟨s, e, starts, stops, ordered, within, same⟩ :=
      exists_places_of_spliceAt checked placed
    exact .inr ⟨_, same, ⟨rfl, ordered, within, written⟩,
      by simp [opening, Opening.bounds?, starts, stops], starts, by rw [opening, Opening.index]⟩
  case h_2 index opening =>
    obtain ⟨place?, placed, rest⟩ := bind_eq_ok.mp accepts
    cases place? with
    | none => cases rest
    | some place =>
      obtain ⟨tokens, written, done⟩ := bind_eq_ok.mp rest
      obtain ⟨counts, inside⟩ := Value.whole?_of_place? placed
      exact .inr ⟨_, (Except.ok.inj done).symm, ⟨rfl, Nat.le_succ place, inside, written⟩,
        by simp [opening, Opening.bounds?, counts], counts, by rw [opening, Opening.index]⟩
  case h_3 index opening =>
    obtain ⟨_, checked, rest⟩ := bind_eq_ok.mp accepts
    obtain ⟨tokens, written, placed⟩ := bind_eq_ok.mp rest
    cases tokens with
    | nil => exact .inl ⟨(Except.ok.inj placed).symm, index, opening⟩
    | cons token more =>
      obtain ⟨s, e, starts, stops, ordered, within, same⟩ :=
        exists_places_of_spliceAt checked placed
      obtain rfl : s = e := Int.ofNat_inj.mp (Option.some.inj (starts.symm.trans stops))
      exact .inr ⟨_, same, ⟨rfl, ordered, within, written⟩,
        by simp [opening, Opening.bounds?, starts], starts, by rw [opening, Opening.index]⟩

theorem accept_cases {offer : Offer} {change : Change} (accepts : w.accept offer = .ok change) :
    change = .nothing .null ∨ ∃ edit, change = .splice edit ∧
      w.Fits offer.owner offer.run edit ∧
      offer.opening.bounds? = some ((edit.start : Int), (edit.stop : Int)) ∧
      edit.index.whole? = some (edit.start : Int) := by
  rcases opened_of_accept accepts with ⟨none, -⟩ | ⟨edit, splices, fits, bounds, counts, -⟩
  · exact .inl none
  · exact .inr ⟨edit, splices, fits, bounds, counts⟩

theorem fits_of_accept {offer : Offer} (accepts : w.accept offer = .ok (.splice edit)) :
    w.Fits offer.owner offer.run edit := by
  rcases accept_cases accepts with none | ⟨same, splices, fits, -⟩
  · cases none
  · cases splices
    exact fits

end Accepting

def offered? (w : Workspace) (host : Host) (request : Request) : Option (List Value) :=
  match w.offer? host request with
  | some ⟨.ok offer, _⟩ => (Payload.items w.view offer.run).toOption
  | _ => none

end Workspace

end TokenEditor
