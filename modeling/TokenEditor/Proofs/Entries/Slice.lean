import TokenEditor.Entries.Slice

/-!
# Slices between two ends

A slice that steps forward by one is a stretch of the list, whatever its ends are: each is first
counted from the end of the list, if it is negative, and then moved into the list. For ends that lie
in order among the places of the list, counting and moving have no part in it.
-/

namespace TokenEditor

namespace Slice

variable {α : Type} {xs : List α}

/-- The place in a list of `length` entries that an end of a slice is moved to. -/
def reach (length : Nat) (place : Int) : Nat := (clamp length 0 length place).toNat

theorem clamp_eq_reach (length : Nat) (place : Int) :
    clamp length 0 length place = reach length place := by
  rw [reach, clamp]
  omega

theorem reach_le (length : Nat) (place : Int) : reach length place ≤ length := by
  rw [reach, clamp]
  omega

theorem reach_of_le {length place : Nat} (within : place ≤ length) :
    reach length place = place := by
  have counted : ¬ (place : Int) < 0 := Int.not_lt.mpr (Int.natCast_nonneg place)
  rw [reach, clamp, if_neg counted]
  omega

theorem places_reach (length : Nat) (start stop : Int) :
    places ⟨some start, some stop, 1⟩ length =
      List.range' (reach length start) (reach length stop - reach length start) := by
  have ends : bounds ⟨some start, some stop, 1⟩ length =
      ((reach length start : Int), (reach length stop : Int)) := by
    simp [bounds, clamp_eq_reach]
  have many : count ⟨some start, some stop, 1⟩ length = reach length stop - reach length start := by
    have forward : ¬ (1 : Int) < 0 := by decide
    simp only [count, ends, forward, if_false, Int.natAbs_one]
    omega
  rw [places, many, ends, List.range'_eq_map_range]
  apply List.map_congr_left
  intro k _
  simp only
  omega

theorem filterMap_getElem?_range' (start count : Nat) (within : start + count ≤ xs.length) :
    (List.range' start count).filterMap (fun place => xs[place]?) = (xs.drop start).take count := by
  induction count generalizing start with
  | zero => simp
  | succ count ih =>
    have here : start < xs.length := by omega
    rw [List.range'_succ, List.filterMap_cons, List.getElem?_eq_getElem here,
      ih (start + 1) (by omega), List.drop_eq_getElem_cons here, List.take_succ_cons]

theorem of_reach (xs : List α) (start stop : Int) :
    of ⟨some start, some stop, 1⟩ xs =
      (xs.take (reach xs.length stop)).drop (reach xs.length start) := by
  have first := reach_le xs.length start
  have last := reach_le xs.length stop
  simp only [of, places_reach, List.getElem?_toArray]
  rw [filterMap_getElem?_range' _ _ (by omega), List.drop_take]

end Slice

namespace Entries

variable {entries : List Entry}

/-- The entries between two ends, once these have been moved into the list. -/
def shown (entries : List Entry) (start stop : Int) : List Entry :=
  window entries (Slice.reach entries.length start) (Slice.reach entries.length stop)

theorem shown_of_le {start stop : Nat} (ordered : start ≤ stop) (within : stop ≤ entries.length) :
    shown entries start stop = window entries start stop := by
  rw [shown, Slice.reach_of_le within, Slice.reach_of_le (Nat.le_trans ordered within)]

/-- A list of entries is what stands in `entries` from `start` up to `stop`, place by place. -/
structure Stretch (entries : List Entry) (start stop : Int) (run : List Entry) : Prop where
  length : (run.length : Int) = stop - start
  same : ∀ place : Nat, place < run.length → run[place]? = entries[start.toNat + place]?

theorem stretch_shown {start stop : Int} (starts : 0 ≤ start) (ordered : start ≤ stop)
    (within : stop ≤ entries.length) : Stretch entries start stop (shown entries start stop) := by
  obtain ⟨first, rfl⟩ := Int.eq_ofNat_of_zero_le starts
  obtain ⟨last, rfl⟩ := Int.eq_ofNat_of_zero_le (Int.le_trans starts ordered)
  rw [shown_of_le (Int.ofNat_le.mp ordered) (Int.ofNat_le.mp within), window]
  constructor
  · rw [List.length_drop, List.length_take]
    omega
  · intro place inside
    rw [List.length_drop, List.length_take] at inside
    rw [List.getElem?_drop, List.getElem?_take_of_lt (by omega), Int.toNat_natCast]

end Entries

end TokenEditor
