import TokenEditor.Proofs.Scanning

/-!
# Maximal runs

If a criterion decides at each place whether it admits what stands there, a run grows up to the
first place at which it does not. Until then it looks at each place once, in order, and no further.
-/

namespace TokenEditor

/-- The predicate of the host answers whenever it is asked about an entry that is there and its
place, and its answer is as true as `p` says. -/
def Host.Judges (host : Host) (view : View) (entries : List Entry) (id : CallableId)
    (p : Entry → Int → Bool) : Prop :=
  ∀ place, Growth.Inside entries place → ∃ answer,
    host.judge id (.ofEntry (Growth.entryAt entries place)) (.int place) = .ok answer ∧
      answer.isTrue view = p (Growth.entryAt entries place) place

namespace Growth

/-- There is an entry at a place, and it is accepted there. -/
def Accepts (p : Entry → Int → Bool) (entries : List Entry) (place : Int) : Prop :=
  Inside entries place ∧ p (entryAt entries place) place = true

theorem rejects_of_inside {p : Entry → Int → Bool} {entries : List Entry} {place : Int}
    (rejected : ¬ Accepts p entries place) (inside : Inside entries place) :
    p (entryAt entries place) place = false := by
  cases accepts : p (entryAt entries place) place with
  | true => exact absurd ⟨inside, accepts⟩ rejected
  | false => rfl

/-- The criterion admits those entries that `p` accepts where they stand, and comes to that with
these events. -/
def Decides (criterion : Criterion) (host : Host) (view : View) (entries : List Entry)
    (p : Entry → Int → Bool) (events : Entry → Int → List Event) : Prop :=
  ∀ place, Inside entries place →
    criterion.admits host view (entryAt entries place) (.int place) =
      ⟨.ok (p (entryAt entries place) place), events (entryAt entries place) place⟩

theorem decides_of_judges {host : Host} {view : View} {entries : List Entry} {id : CallableId}
    {p : Entry → Int → Bool} (judges : host.Judges view entries id p) :
    Decides (.asking (.predicate id)) host view entries p
      fun entry place => [.judged (.ofEntry entry) (.int place)] := by
  intro place inside
  obtain ⟨answer, answers, truth⟩ := judges place inside
  rw [Criterion.admits, Host.ask, answers, ← truth]
  rfl

theorem admitted_of_decides {α : Type} {ask : α → Attempt Bool} {accepts : α → Bool}
    {events : α → List Event} {met : List α}
    (decides : ∀ a ∈ met, ask a = ⟨.ok (accepts a), events a⟩) :
    ∃ count ≤ met.length, (∀ a ∈ met.take count, accepts a = true) ∧
      (∀ a, met[count]? = some a → accepts a = false) ∧
      admitted ask met = ⟨.ok count, (met.take (count + 1)).flatMap events⟩ := by
  induction met with
  | nil =>
    refine ⟨0, Nat.le_refl 0, List.forall_mem_nil _, ?_, rfl⟩
    intro a found
    cases found
  | cons a rest ih =>
    obtain ⟨first, others⟩ := List.forall_mem_cons.mp decides
    cases accepted : accepts a with
    | true =>
      obtain ⟨count, within, admits, stops, counted⟩ := ih others
      refine ⟨count + 1, Nat.succ_le_succ within, ?_, stops, ?_⟩
      · exact List.forall_mem_cons.mpr ⟨accepted, admits⟩
      · rw [admitted, first, accepted, Attempt.ok_bind, if_pos rfl, counted, Attempt.ok_bind]
        simp
    | false =>
      refine ⟨0, Nat.zero_le _, List.forall_mem_nil _, ?_, ?_⟩
      · intro other same
        obtain rfl := Option.some.inj same
        exact accepted
      · rw [admitted, first, accepted]
        rfl

/-- What is looked at while a run of `count` entries grows: each of them, and after that the entry
that is not admitted, if there is one. -/
def seen (entries : List Entry) (start step : Int) (count : Nat) : List (Entry × Int) :=
  visited entries start step (count + if Inside entries (start + step * count) then 1 else 0)

section Growing

variable {host : Host} {view : View} {criterion : Criterion} {stride : Stride}
  {entries : List Entry} {p : Entry → Int → Bool} {events : Entry → Int → List Event}

theorem ends_int {start : Int} (inside : 0 ≤ start) (count : Nat) :
    ends stride (.int start) start.toNat count =
      if stride.forward then (.int start, .int (start + count))
      else (.int (start + 1 - count), .int (start + 1)) := by
  have back : ((start.toNat : Nat) : Int) = start := Int.toNat_of_nonneg inside
  rw [ends, back]
  split
  case isTrue => rfl
  case isFalse =>
    split
    case isTrue single =>
      rw [single]
      simp
    case isFalse => rfl

theorem grow_of_outside {start : Int} (outside : ¬ Inside entries start) :
    grow host view criterion stride entries (.int start) = pure none := by
  have bounds : ¬ (0 ≤ start ∧ start < entries.length) := outside
  rw [grow, Value.place?_of_whole? (Value.whole?_int start), if_neg bounds]
  rfl

theorem grow_of_inside (whole : stride.whole = true) {place : Nat}
    (inside : place < entries.length) :
    grow host view criterion stride entries (.int place) = (do
      let count ← admitted
        (fun visit : Entry × Int => criterion.admits host view visit.1 (.int visit.2))
        (visited entries place stride.sign (stride.reach entries.length place))
      return if count = 0 then none else some (ends stride (.int place) place count)) := by
  have bounds : (0 : Int) ≤ place ∧ (place : Int) < entries.length := by omega
  have placed : (Value.int place).place? entries.length = .ok (some place) := by
    rw [Value.place?_of_whole? (Value.whole?_int _), if_pos bounds, Int.toNat_natCast]
  have asks : judged host view criterion stride (.int place) place =
      fun visit => criterion.admits host view visit.1 (.int visit.2) := by
    funext visit
    rw [judged]
    by_cases same : visit.2 = place
    · rw [if_pos same, same]
    · rw [if_neg same, if_pos whole]
  rw [grow_of_place placed, asks]

/-- A run grows over the entries that are accepted, one after another, up to the first place with
none. -/
theorem grow_of_decides (decides : Decides criterion host view entries p events)
    (whole : stride.whole = true) (start : Int) :
    ∃ count : Nat,
      (∀ visit < count, Accepts p entries (start + stride.sign * visit)) ∧
      ¬ Accepts p entries (start + stride.sign * count) ∧
      grow host view criterion stride entries (.int start) =
        ⟨.ok (if count = 0 then none else some (ends stride (.int start) start.toNat count)),
          (seen entries start stride.sign count).flatMap fun visit => events visit.1 visit.2⟩ := by
  by_cases inside : Inside entries start
  case neg =>
    have here : start + stride.sign * (0 : Nat) = start := by simp
    refine ⟨0, nofun, ?_, ?_⟩
    · rw [here]
      exact fun accepts => inside accepts.1
    · rw [grow_of_outside inside, seen, here, if_neg inside]
      rfl
  case pos =>
    obtain ⟨place, rfl⟩ := Int.eq_ofNat_of_zero_le inside.1
    have within : place < entries.length := Int.ofNat_lt.mp inside.2
    have asked : ∀ visit ∈ visited entries place stride.sign (stride.reach entries.length place),
        criterion.admits host view visit.1 (.int visit.2) =
          ⟨.ok (p visit.1 visit.2), events visit.1 visit.2⟩ := by
      intro visit member
      obtain ⟨i, before, rfl⟩ := mem_visited.mp member
      exact decides _ ((Stride.inside_iff within i).mpr before)
    obtain ⟨count, most, admits, stops, counted⟩ := admitted_of_decides asked
    rw [length_visited] at most
    refine ⟨count, fun visit before => ?_, fun accepts => ?_, ?_⟩
    · have reached : visit < stride.reach entries.length place := by omega
      refine ⟨(Stride.inside_iff within visit).mpr reached, ?_⟩
      rw [take_visited, Nat.min_eq_left most] at admits
      exact admits _ (List.mem_of_getElem? (getElem?_visited before))
    · have reached := (Stride.inside_iff within count).mp accepts.1
      have rejected := stops _ (getElem?_visited reached)
      simp [accepts.2] at rejected
    · have visits : min (count + 1) (stride.reach entries.length place) =
          count + if Inside entries (place + stride.sign * count) then 1 else 0 := by
        have next : Inside entries (place + stride.sign * count) ↔ _ :=
          Stride.inside_iff within count
        split
        case isTrue inside =>
          have reached := next.mp inside
          omega
        case isFalse outside =>
          have reached := mt next.mpr outside
          omega
      rw [grow_of_inside whole within, counted, Attempt.ok_bind, take_visited, seen,
        Int.toNat_natCast, visits, Attempt.pure_answer, Attempt.pure_events, List.append_nil]

section Directions

variable (decides : Decides criterion host view entries p events) (start : Int)

include decides

theorem grow_of_rejected (whole : stride.whole = true) (rejected : ¬ Accepts p entries start) :
    grow host view criterion stride entries (.int start) =
      ⟨.ok none, (visited entries start stride.sign (if Inside entries start then 1 else 0)).flatMap
        fun visit => events visit.1 visit.2⟩ := by
  obtain ⟨count, admits, -, grown⟩ := grow_of_decides decides whole start
  have here : start + stride.sign * (0 : Nat) = start := by simp
  cases count with
  | zero =>
    rw [grown, seen, here, Nat.zero_add]
    rfl
  | succ count =>
    have first := admits 0 (Nat.succ_pos count)
    rw [here] at first
    exact absurd first rejected

theorem exists_count_of_accepts (stride : Stride) (whole : stride.whole = true)
    (accepts : Accepts p entries start) :
    ∃ count : Nat, 0 < count ∧
      (∀ visit < count, Accepts p entries (start + stride.sign * visit)) ∧
      ¬ Accepts p entries (start + stride.sign * count) ∧
      grow host view criterion stride entries (.int start) =
        ⟨.ok (some (ends stride (.int start) start.toNat count)),
          (seen entries start stride.sign count).flatMap fun visit => events visit.1 visit.2⟩ := by
  obtain ⟨count, admits, stops, grown⟩ := grow_of_decides decides whole start
  have here : start + stride.sign * (0 : Nat) = start := by simp
  cases count with
  | zero =>
    rw [here] at stops
    exact absurd accepts stops
  | succ count => exact ⟨count + 1, Nat.succ_pos count, admits, stops, grown⟩

theorem grow_forward (accepts : Accepts p entries start) :
    ∃ stop : Int, start < stop ∧ stop ≤ entries.length ∧
      (∀ place, start ≤ place → place < stop → Accepts p entries place) ∧
      (stop = entries.length ∨ p (entryAt entries stop) stop = false) ∧
      grow host view criterion ⟨true, true⟩ entries (.int start) =
        ⟨.ok (some (.int start, .int stop)), (visited entries start 1
          ((stop - start).toNat + if stop < entries.length then 1 else 0)).flatMap
            fun visit => events visit.1 visit.2⟩ := by
  obtain ⟨count, nonempty, admits, stops, grown⟩ :=
    exists_count_of_accepts decides start ⟨true, true⟩ rfl accepts
  have sign : Stride.sign ⟨true, true⟩ = 1 := rfl
  rw [sign] at admits stops grown
  have first := accepts.1.1
  have last := (admits (count - 1) (by omega)).1.2
  have inside : Inside entries (start + 1 * count) ↔ start + count < entries.length := by
    rw [Inside]
    omega
  refine ⟨start + count, by omega, by omega, fun place after before => ?_, ?_, ?_⟩
  · have visit : start + 1 * ((place - start).toNat : Nat) = place := by omega
    rw [← visit]
    exact admits _ (by omega)
  · by_cases bound : start + count < entries.length
    · have rejects := rejects_of_inside stops (inside.mpr bound)
      rw [Int.one_mul] at rejects
      exact .inr rejects
    · exact .inl (by omega)
  · have visits : (start + count - start).toNat = count := by omega
    rw [grown, ends_int first, seen, visits]
    simp only [inside]
    rfl

theorem grow_backward (accepts : Accepts p entries start) :
    ∃ first : Int, 0 ≤ first ∧ first ≤ start ∧
      (∀ place, first ≤ place → place ≤ start → Accepts p entries place) ∧
      (first = 0 ∨ p (entryAt entries (first - 1)) (first - 1) = false) ∧
      grow host view criterion ⟨false, true⟩ entries (.int start) =
        ⟨.ok (some (.int first, .int (start + 1))), (visited entries start (-1)
          ((start + 1 - first).toNat + if 0 < first then 1 else 0)).flatMap
            fun visit => events visit.1 visit.2⟩ := by
  obtain ⟨count, nonempty, admits, stops, grown⟩ :=
    exists_count_of_accepts decides start ⟨false, true⟩ rfl accepts
  have sign : Stride.sign ⟨false, true⟩ = -1 := rfl
  rw [sign] at admits stops grown
  have bound := accepts.1.2
  have last := (admits (count - 1) (by omega)).1.1
  have inside : Inside entries (start + -1 * count) ↔ 0 < start + 1 - count := by
    rw [Inside]
    omega
  refine ⟨start + 1 - count, by omega, by omega, fun place after before => ?_, ?_, ?_⟩
  · have visit : start + -1 * ((start - place).toNat : Nat) = place := by omega
    rw [← visit]
    exact admits _ (by omega)
  · by_cases more : 0 < start + 1 - count
    · have rejects := rejects_of_inside stops (inside.mpr more)
      have before : start + -1 * count = start + 1 - count - 1 := by omega
      rw [before] at rejects
      exact .inr rejects
    · exact .inl (by omega)
  · have visits : (start + 1 - (start + 1 - count)).toNat = count := by omega
    rw [grown, ends_int accepts.1.1, seen, visits]
    simp only [inside]
    rfl

end Directions

end Growing

section Selecting

variable {host : Host} {view : View} {id : CallableId} {p : Entry → Int → Bool}

theorem select_eq_grow {stride : Stride} {criterion : Criterion}
    {start step selector anchor : Value}
    (names : Criterion.ofValue view anchor selector = .ok criterion)
    (strides : Stride.ofValue view step = .ok stride) (entries : List Entry) :
    select host view entries start step selector anchor =
      grow host view criterion stride entries start := by
  rw [select, names, strides, Attempt.liftM_ok, Attempt.liftM_ok, pure_bind, pure_bind]

theorem stride_forward (view : View) : Stride.ofValue view (.int 1) = .ok ⟨true, true⟩ := by
  rfl

theorem stride_backward (view : View) : Stride.ofValue view (.int (-1)) = .ok ⟨false, true⟩ := by
  rfl

def asked (visits : List (Entry × Int)) : List Event :=
  visits.map fun visit => .judged (.ofEntry visit.1) (.int visit.2)

theorem asked_eq_flatMap (visits : List (Entry × Int)) :
    asked visits = visits.flatMap fun visit => [.judged (.ofEntry visit.1) (.int visit.2)] :=
  List.map_eq_flatMap

section Judging

variable {entries : List Entry} (judges : host.Judges view entries id p) (start : Int)
  (anchor : Value)

include judges

theorem select_of_rejected {step : Int} {stride : Stride}
    (strides : Stride.ofValue view (.int step) = .ok stride) (whole : stride.whole = true)
    (rejected : ¬ Accepts p entries start) :
    select host view entries (.int start) (.int step) (.predicate id) anchor =
      ⟨.ok none,
        asked (visited entries start stride.sign (if Inside entries start then 1 else 0))⟩ := by
  rw [select_eq_grow rfl strides, asked_eq_flatMap]
  exact grow_of_rejected (decides_of_judges judges) start whole rejected

theorem select_forward (accepts : Accepts p entries start) :
    ∃ stop : Int, start < stop ∧ stop ≤ entries.length ∧
      (∀ place, start ≤ place → place < stop → Accepts p entries place) ∧
      (stop = entries.length ∨ p (entryAt entries stop) stop = false) ∧
      select host view entries (.int start) (.int 1) (.predicate id) anchor =
        ⟨.ok (some (.int start, .int stop)), asked (visited entries start 1
          ((stop - start).toNat + if stop < entries.length then 1 else 0))⟩ := by
  obtain ⟨stop, after, within, accepted, ends, grown⟩ :=
    grow_forward (decides_of_judges judges) start accepts
  refine ⟨stop, after, within, accepted, ends, ?_⟩
  rw [select_eq_grow rfl (stride_forward view), asked_eq_flatMap]
  exact grown

theorem select_backward (accepts : Accepts p entries start) :
    ∃ first : Int, 0 ≤ first ∧ first ≤ start ∧
      (∀ place, first ≤ place → place ≤ start → Accepts p entries place) ∧
      (first = 0 ∨ p (entryAt entries (first - 1)) (first - 1) = false) ∧
      select host view entries (.int start) (.int (-1)) (.predicate id) anchor =
        ⟨.ok (some (.int first, .int (start + 1))), asked (visited entries start (-1)
          ((start + 1 - first).toNat + if 0 < first then 1 else 0))⟩ := by
  obtain ⟨first, within, before, accepted, ends, grown⟩ :=
    grow_backward (decides_of_judges judges) start accepts
  refine ⟨first, within, before, accepted, ends, ?_⟩
  rw [select_eq_grow rfl (stride_backward view), asked_eq_flatMap]
  exact grown

end Judging

/-- Selecting by a predicate finds the maximal run from a place on in one direction, or nothing if
that place is outside or not accepted. The predicate is called once for each entry of the run, in
the order in which it grows, then for the entry that ends it, if there is one, and for no other. A
scan that moves the bounds from place to place comes to the same. -/
theorem select_finds_maximal_run {entries : List Entry} (judges : host.Judges view entries id p)
    (start : Int) (anchor : Value) :
    let length : Int := entries.length
    let scan := fun step : Int =>
      select host view entries (.int start) (.int step) (.predicate id) anchor
    (∀ step : Int, scan step =
      selectByBounds host view entries (.int start) (.int step) (.predicate id) anchor) ∧
    (¬ Accepts p entries start → ∀ step, step = 1 ∨ step = -1 →
      scan step = ⟨.ok none,
        asked (visited entries start step (if Inside entries start then 1 else 0))⟩) ∧
    (Accepts p entries start →
      (∃ stop, start < stop ∧ stop ≤ length ∧
        (∀ place, start ≤ place → place < stop → Accepts p entries place) ∧
        (stop = length ∨ p (entryAt entries stop) stop = false) ∧
        scan 1 = ⟨.ok (some (.int start, .int stop)), asked (visited entries start 1
          ((stop - start).toNat + if stop < length then 1 else 0))⟩) ∧
      ∃ first, 0 ≤ first ∧ first ≤ start ∧
        (∀ place, first ≤ place → place ≤ start → Accepts p entries place) ∧
        (first = 0 ∨ p (entryAt entries (first - 1)) (first - 1) = false) ∧
        scan (-1) = ⟨.ok (some (.int first, .int (start + 1))), asked (visited entries start (-1)
          ((start + 1 - first).toNat + if 0 < first then 1 else 0))⟩) := by
  intro length scan
  refine ⟨fun step => select_eq_selectByBounds .., fun rejected step unit => ?_,
    fun accepts => ⟨?_, ?_⟩⟩
  · rcases unit with rfl | rfl
    · exact select_of_rejected judges start anchor (stride_forward view) rfl rejected
    · exact select_of_rejected judges start anchor (stride_backward view) rfl rejected
  · exact select_forward judges start anchor accepts
  · exact select_backward judges start anchor accepts

/-- The predicate fails on missing entries, of which there are none. It accepts `b` at an early
place, and its answers are no truth values; forward it is the place that ends the run, backward it
is the entry. -/
theorem select_finds_maximal_run_at_early_places :
    let host : Host := ⟨fun _ => .ok, fun _ entry index =>
      match entry, index with
      | .text s, .int i => .ok (.int (if s = "b" ∧ i < 3 then 7 else 0))
      | _, _ => .error .noSuchMember⟩
    let p : Entry → Int → Bool := fun entry place => entry == some "b" && decide (place < 3)
    let entries : List Entry := [some "a", some "b", some "b", some "b"]
    let scan := fun step : Int =>
      select host View.empty entries (.int 1) (.int step) (.predicate 0) .null
    host.Judges View.empty entries 0 p ∧ Accepts p entries 1 ∧
      (∀ place, 1 ≤ place → place < 3 → Accepts p entries place) ∧
      scan 1 = ⟨.ok (some (.int 1, .int 3)), asked [(some "b", 1), (some "b", 2), (some "b", 3)]⟩ ∧
      scan (-1) = ⟨.ok (some (.int 1, .int 2)), asked [(some "b", 1), (some "a", 0)]⟩ := by
  intro host p entries scan
  have judges : host.Judges View.empty entries 0 p := by
    rintro place ⟨starts, stops⟩
    have last : place < 4 := stops
    have there : ∃ s, entryAt entries place = some s := by
      obtain rfl | rfl | rfl | rfl : place = 0 ∨ place = 1 ∨ place = 2 ∨ place = 3 := by omega
      all_goals exact ⟨_, rfl⟩
    obtain ⟨s, there⟩ := there
    rw [there]
    refine ⟨_, rfl, ?_⟩
    by_cases early : s = "b" ∧ place < 3
    · have accepted : p (some s) place = true := by simp [p, early]
      rw [accepted, if_pos early]
      rfl
    · have rejected : p (some s) place = false := by simpa [p] using early
      rw [rejected, if_neg early]
      rfl
  have accepts : Accepts p entries 1 := ⟨by decide, rfl⟩
  have forward : scan 1 =
      ⟨.ok (some (.int 1, .int 3)), asked [(some "b", 1), (some "b", 2), (some "b", 3)]⟩ := rfl
  obtain ⟨⟨stop, -, -, accepted, -, found⟩, -⟩ :=
    (select_finds_maximal_run judges 1 .null).2.2 accepts
  have same : stop = 3 := by
    cases (congrArg Attempt.answer found).symm.trans (congrArg Attempt.answer forward)
    rfl
  exact ⟨judges, accepts, same ▸ accepted, forward, rfl⟩

end Selecting

end Growth

end TokenEditor
