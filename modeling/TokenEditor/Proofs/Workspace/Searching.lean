import Mathlib.Data.List.Perm.Subperm
import TokenEditor.Proofs.Selecting
import TokenEditor.Proofs.Workspace.Effects

/-!
# Searches for a token

A search looks at one place after the other and ends at the first that matches; the search after it
starts behind that place. So a chain of searches comes by every place that matches, once and in
order, and ends with the search that finds none.
-/

namespace TokenEditor

namespace Entries

/-- A place matches if it holds the token that is wanted or, where case does not count, one with the
same small form. -/
def Matches (exact : Bool) (wanted : String) (entries : List Entry) (place : Nat) : Prop :=
  ∃ token, entries[place]? = some (some token) ∧
    if exact then token = wanted else Text.Case.lower token = Text.Case.lower wanted

/-- What a search from `start` on is to come to. -/
def First (exact : Bool) (wanted : String) (entries : List Entry) (start : Int) :
    Option Nat → Prop
  | some place => IsLeast {place : Nat | start ≤ place ∧ Matches exact wanted entries place} place
  | none => ∀ place : Nat, start ≤ place → ¬ Matches exact wanted entries place

def folding (exact : Bool) : String → String := if exact then id else Text.Case.lower

variable {exact : Bool} {wanted : String} {entries : List Entry} {place : Nat}

theorem Matches.lt_length (found : Matches exact wanted entries place) :
    place < entries.length := by
  obtain ⟨token, held, -⟩ := found
  exact (List.getElem?_eq_some_iff.mp held).1

theorem matches_iff (within : place < entries.length) :
    Matches exact wanted entries place ↔
      (entries[place].map (folding exact) == some (folding exact wanted)) = true := by
  rw [beq_iff_eq, Option.map_eq_some_iff, Matches, List.getElem?_eq_getElem within]
  cases exact <;> simp [folding]

theorem first_of_find?_eq_some {start : Nat}
    (found : find? (folding exact) (folding exact wanted) entries start = some place) :
    First exact wanted entries start (some place) := by
  obtain ⟨distance, first, rfl⟩ := Option.map_eq_some_iff.mp found
  obtain ⟨within, accepted, rejected⟩ := List.findIdx?_eq_some_iff_getElem.mp first
  rw [List.length_drop] at within
  simp only [List.getElem_drop] at accepted rejected
  refine ⟨⟨by omega, (matches_iff (by omega)).mpr accepted⟩, ?_⟩
  rintro other ⟨after, matching⟩
  obtain ⟨further, rfl⟩ := Nat.exists_eq_add_of_le (Int.ofNat_le.mp after)
  by_contra before
  exact rejected further (by omega) ((matches_iff matching.lt_length).mp matching)

theorem first_of_find?_eq_none {start : Nat}
    (missed : find? (folding exact) (folding exact wanted) entries start = none) :
    First exact wanted entries start none := by
  intro place after matching
  obtain ⟨distance, rfl⟩ := Nat.exists_eq_add_of_le (Int.ofNat_le.mp after)
  have within := matching.lt_length
  have behind : entries[start + distance] ∈ entries.drop start :=
    List.mem_drop_iff_getElem.mpr ⟨distance, by omega, rfl⟩
  have rejected := List.findIdx?_eq_none_iff.mp (Option.map_eq_none_iff.mp missed) _ behind
  exact Bool.false_ne_true (rejected.symm.trans ((matches_iff within).mp matching))

theorem First.of_toNat {start : Int} {found : Option Nat}
    (first : First exact wanted entries start.toNat found) :
    First exact wanted entries start found := by
  have same (place : Nat) : ((start.toNat : Int) ≤ place) = (start ≤ place) := by
    rw [Int.ofNat_le, Int.toNat_le]
  cases found <;> simpa only [First, same] using first

theorem first_find? (exact : Bool) (wanted : String) (entries : List Entry) (start : Int) :
    First exact wanted entries start
      (find? (folding exact) (folding exact wanted) entries start.toNat) := by
  apply First.of_toNat
  cases found : find? (folding exact) (folding exact wanted) entries start.toNat with
  | none => exact first_of_find?_eq_none found
  | some place => exact first_of_find?_eq_some found

theorem First.mem_cons_iff {start : Int} (first : First exact wanted entries start (some place))
    {places : List Nat}
    (behind : ∀ other : Nat, other ∈ places ↔
      (place : Int) + 1 ≤ other ∧ Matches exact wanted entries other) (other : Nat) :
    other ∈ place :: places ↔ start ≤ other ∧ Matches exact wanted entries other := by
  obtain ⟨⟨after, matching⟩, least⟩ := first
  rw [List.mem_cons, behind]
  constructor
  · rintro (rfl | ⟨further, accepted⟩)
    · exact ⟨after, matching⟩
    · exact ⟨by omega, accepted⟩
  · rintro ⟨reached, accepted⟩
    have notBefore : place ≤ other := least ⟨reached, accepted⟩
    rcases Nat.eq_or_lt_of_le notBefore with same | further
    · exact .inl same.symm
    · exact .inr ⟨Int.ofNat_lt.mpr further, accepted⟩

end Entries

namespace Workspace

def cursorAt (owner : SequenceId) (place : Nat) : ItemCursor := ⟨.int place, owner⟩

/-- What a request for a place comes to: a new cursor there, if there is one, and in either case no
other change. -/
def Locates (w : Workspace) (owner : SequenceId) (done : Workspace × Attempt Value) :
    Option Nat → Prop
  | some place =>
      done.1 = w.addItem (cursorAt owner place) ∧ done.2.answer = .ok (.item w.items.length)
  | none => done.1 = w ∧ done.2.answer = .ok .null

section Locating

variable {w : Workspace} {host : Host} {owner : SequenceId} {wanted : String}
  {caseSensitive : Value}

theorem searchStart_int (k : Int) : searchStart (.int k) = .ok k.toNat := by
  simp only [searchStart, Value.number_int, Value.whole_int, Except.bind, bind,
    Number.isLess_whole, decide_eq_true_eq]
  split
  case isTrue negative =>
    rw [Int.toNat_of_nonpos (Int.le_of_lt negative)]
    rfl
  case isFalse => rfl

/-- What a search plans, once it is known which place it comes to. -/
def located (owner : SequenceId) : Option Nat → Change
  | some place => .addItem (cursorAt owner place)
  | none => .nothing .null

theorem find_text (w : Workspace) (owner : SequenceId) (wanted : String) (caseSensitive : Value)
    (k : Int) :
    let exact := caseSensitive.isTrue w.view
    w.find owner (.text wanted) caseSensitive (.int k) = .ok (located owner
      (Entries.find? (Entries.folding exact) (Entries.folding exact wanted) (w.entries owner)
        k.toNat)) := by
  have sought (exact : Bool) :
      soughtOf (.text wanted) exact = .ok (.text (Entries.folding exact wanted)) := by
    cases exact <;> rfl
  intro exact
  rw [find, searchStart_int, sought]
  change (match Entries.find? (Entries.folding exact) (Entries.folding exact wanted)
      (w.entries owner) k.toNat with
    | some place => Except.ok (Change.addItem ⟨.int place, owner⟩)
    | none => .ok (.nothing .null)) = _
  cases Entries.find? (Entries.folding exact) (Entries.folding exact wanted) (w.entries owner)
    k.toNat <;> rfl

theorem locates_of_plan {request : Request} {found : Option Nat}
    (plans : w.plan host request = pure (located owner found)) :
    w.Locates owner (w.perform host request) found := by
  obtain ⟨changed, answers⟩ := perform_of_ok (congrArg Attempt.answer plans)
  rw [plans, Attempt.pure_events, afterEvents_nil] at changed answers
  cases found <;> exact ⟨changed, answers⟩

/-- A search from a place comes to the first place that matches from there on. -/
theorem search_locates_first (w : Workspace) (host : Host) (owner : SequenceId) (wanted : String)
    (caseSensitive : Value) (k : Int) :
    ∃ found, Entries.First (caseSensitive.isTrue w.view) wanted (w.entries owner) k found ∧
      w.Locates owner (w.perform host
        (.ofSequence owner (.find (.text wanted) caseSensitive (.int k)))) found := by
  refine ⟨_, Entries.first_find? _ _ _ _, locates_of_plan ?_⟩
  exact congrArg liftM (find_text w owner wanted caseSensitive k)

theorem next_locates_first {id : ItemId} {k : Int} (held : w.items[id]? = some ⟨.int k, owner⟩) :
    ∃ found, Entries.First (caseSensitive.isTrue w.view) wanted (w.entries owner) (k + 1) found ∧
      w.Locates owner (w.perform host (.ofItem id (.next (.text wanted) caseSensitive))) found := by
  refine ⟨_, Entries.first_find? _ _ _ _, locates_of_plan ?_⟩
  rw [plan, held]
  exact congrArg liftM (find_text w owner wanted caseSensitive (k + 1))

end Locating

/-- A chain of searches, how many there are, which cursors they come to and what they leave: each
search but the first is made from the cursor that the one before has come to, until one comes to
none. -/
inductive Searches (host : Host) (wanted caseSensitive : Value) :
    Nat → Workspace × Attempt Value → List ItemCursor → Workspace → Prop
  | last {done : Workspace × Attempt Value} :
      done.2.answer = .ok .null → Searches host wanted caseSensitive 1 done [] done.1
  | more {done : Workspace × Attempt Value} {id : ItemId} {cursor : ItemCursor} {count : Nat}
      {visited : List ItemCursor} {after : Workspace} :
      done.2.answer = .ok (.item id) → done.1.items[id]? = some cursor →
      Searches host wanted caseSensitive count
        (done.1.perform host (.ofItem id (.next wanted caseSensitive))) visited after →
      Searches host wanted caseSensitive (count + 1) done (cursor :: visited) after

section Chaining

variable {w : Workspace} {host : Host} {owner : SequenceId} {wanted : String}
  {caseSensitive : Value} {done : Workspace × Attempt Value}

theorem Searches.unique {wanted : Value} {count count' : Nat} {visited visited' : List ItemCursor}
    {after after' : Workspace} (chain : Searches host wanted caseSensitive count done visited after)
    (other : Searches host wanted caseSensitive count' done visited' after') :
    count' = count ∧ visited' = visited ∧ after' = after := by
  induction chain generalizing count' visited' with
  | last answers =>
    cases other with
    | last => exact ⟨rfl, rfl, rfl⟩
    | more answers' => cases answers.symm.trans answers'
  | more answers held _ inductionHypothesis =>
    cases other with
    | last answers' => cases answers.symm.trans answers'
    | more answers' held' further =>
      cases answers.symm.trans answers'
      cases held.symm.trans held'
      obtain ⟨rfl, rfl, rfl⟩ := inductionHypothesis further
      exact ⟨rfl, rfl, rfl⟩

def addItems (w : Workspace) (owner : SequenceId) (places : List Nat) : Workspace :=
  { w with items := w.items ++ places.map (cursorAt owner) }

theorem addItems_nil (w : Workspace) (owner : SequenceId) : w.addItems owner [] = w := by
  rw [addItems, List.map_nil, List.append_nil]

theorem addItems_cons (w : Workspace) (owner : SequenceId) (place : Nat) (places : List Nat) :
    w.addItems owner (place :: places) =
      (w.addItem (cursorAt owner place)).addItems owner places := by
  simp only [addItems, addItem, List.map_cons, List.append_assoc, List.singleton_append]

theorem isTrue_addItem (value : Value) (cursor : ItemCursor) :
    value.isTrue (w.addItem cursor).view = value.isTrue w.view :=
  Value.isTrue_congr (by rw [entries_view, entries_view]; rfl) value

/-- A search and those that follow it come by all places that match from its start on. -/
theorem exists_searches {w : Workspace} {done : Workspace × Attempt Value} {start : Int}
    {found : Option Nat}
    (first : Entries.First (caseSensitive.isTrue w.view) wanted (w.entries owner) start found)
    (locates : w.Locates owner done found) :
    ∃ places : List Nat,
      (∀ place : Nat, place ∈ places ↔ start ≤ place ∧
        Entries.Matches (caseSensitive.isTrue w.view) wanted (w.entries owner) place) ∧
      places.Pairwise (· < ·) ∧
      Searches host (.text wanted) caseSensitive (places.length + 1) done
        (places.map (cursorAt owner)) (w.addItems owner places) := by
  obtain ⟨after, answers⟩ := done
  cases found with
  | none =>
    obtain ⟨rfl, answered⟩ := locates
    refine ⟨[], fun place => ?_, .nil, ?_⟩
    · exact ⟨fun member => absurd member List.not_mem_nil, fun ⟨behind, matching⟩ =>
        absurd matching (first place behind)⟩
    · rw [addItems_nil]
      exact .last answered
  | some place =>
    obtain ⟨rfl, answered⟩ := locates
    have held : (w.addItem (cursorAt owner place)).items[w.items.length]? =
        some (cursorAt owner place) := List.getElem?_concat_length
    obtain ⟨next, first', locates'⟩ := @next_locates_first _ host _ wanted caseSensitive _ _ held
    have reached := first.1.1
    have within := first.1.2.lt_length
    obtain ⟨places, visited, increasing, chain⟩ := exists_searches first' locates'
    rw [isTrue_addItem] at visited
    have behind : ∀ other ∈ places, place < other := fun other member =>
      Int.ofNat_lt.mp ((visited other).mp member).1
    refine ⟨place :: places, first.mem_cons_iff visited, .cons behind increasing, ?_⟩
    rw [addItems_cons]
    exact .more answered held chain
termination_by ((w.entries owner).length - start).toNat
decreasing_by
  have same : (w.addItem (cursorAt owner place)).entries owner = w.entries owner := rfl
  rw [same]
  omega

/-- A chain of searches comes by each place that matches, in order and no other, with one search
more than there are such places. A search from anywhere comes to the first of them from there on,
and no search changes anything but that there is a new cursor. -/
theorem searches_enumerate_matches (w : Workspace) (host : Host) (owner : SequenceId)
    (wanted : String) (caseSensitive : Value) :
    let entries := w.entries owner
    let exact := caseSensitive.isTrue w.view
    let search := fun k : Int =>
      w.perform host (.ofSequence owner (.find (.text wanted) caseSensitive (.int k)))
    (∃ places : List Nat,
      (∀ place, place ∈ places ↔ Entries.Matches exact wanted entries place) ∧
      places.Pairwise (· < ·) ∧ places.length + 1 ≤ entries.length + 1 ∧
      ∀ count visited after,
        Searches host (.text wanted) caseSensitive count (search 0) visited after ↔
          count = places.length + 1 ∧ visited = places.map (cursorAt owner) ∧
            after = { w with items := w.items ++ visited }) ∧
    ∀ k : Int, ∃ found : Option Nat,
      Entries.First exact wanted entries k found ∧ w.Locates owner (search k) found := by
  intro entries exact search
  refine ⟨?_, fun k => w.search_locates_first host owner wanted caseSensitive k⟩
  obtain ⟨found, first, locates⟩ := w.search_locates_first host owner wanted caseSensitive 0
  obtain ⟨places, visited, increasing, chain⟩ := exists_searches first locates
  refine ⟨places, fun place => ?_, increasing, ?_, fun count cursors after => ⟨?_, ?_⟩⟩
  · rw [visited, and_iff_right (Int.natCast_nonneg place)]
  · apply Nat.succ_le_succ
    have distinct : places.Nodup := increasing.imp Nat.ne_of_lt
    have within : places ⊆ List.range entries.length := fun place member =>
      List.mem_range.mpr ((visited place).mp member).2.lt_length
    exact (List.subperm_of_subset distinct within).length_le.trans_eq List.length_range
  · intro other
    obtain ⟨rfl, rfl, rfl⟩ := chain.unique other
    exact ⟨rfl, rfl, rfl⟩
  · rintro ⟨rfl, rfl, rfl⟩
    exact chain

end Chaining

end Workspace

end TokenEditor
