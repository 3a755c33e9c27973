import TokenEditor.Value.Order

/-!
# Values that count as whole numbers

Whole numbers and truth values can be coordinates. As numbers, and when they are shifted or
compared, they are nothing but the whole numbers that they count as.
-/

namespace TokenEditor.Value

variable {value : Value} {i : Int}

theorem whole_eq_ok_iff : value.whole = .ok i ↔ value.whole? = some i := by
  unfold whole
  cases value.whole? <;> simp

theorem number_of_whole? (counts : value.whole? = some i) : value.number = .ok (.whole i) := by
  cases value with
  | int j =>
    obtain rfl := Option.some.inj counts
    rfl
  | bool b =>
    obtain rfl := Option.some.inj counts
    rfl
  | _ => cases counts

theorem shift_of_whole? (counts : value.whole? = some i) (amount : Int) :
    value.shift amount = .ok (int (i + amount)) := by
  rw [shift, number_of_whole? counts]
  rfl

theorem isBefore_of_whole? (view : View) {other : Value} {j : Int}
    (counts : value.whole? = some i) (counted : other.whole? = some j) :
    value.isBefore view other = .ok (decide (i < j)) := by
  have first := number_of_whole? counts
  have second := number_of_whole? counted
  cases value with
  | int k =>
    rw [isBefore, first, second]
    · simp only [bind, Except.bind, pure, Except.pure, Number.isLess_whole]
    all_goals intros; contradiction
  | bool b =>
    rw [isBefore, first, second]
    · simp only [bind, Except.bind, pure, Except.pure, Number.isLess_whole]
    all_goals intros; contradiction
  | _ => cases counts

theorem isSame_of_whole? (view : View) {other : Value} {j : Int}
    (counts : value.whole? = some i) (counted : other.whole? = some j) :
    value.isSame view other = decide (i = j) := by
  cases value with
  | int _ | bool _ =>
    cases other with
    | int _ | bool _ =>
      cases counts
      cases counted
      exact Number.isSame_whole _ _
    | _ => cases counted
  | _ => cases counts

theorem place?_of_whole? (counts : value.whole? = some i) (length : Nat) :
    value.place? length = .ok (if 0 ≤ i ∧ i < length then some i.toNat else none) := by
  rw [place?, number_of_whole? counts, whole_eq_ok_iff.mpr counts]
  simp only [bind, Except.bind, pure, Except.pure, Number.isAtMost_whole, Number.isLess_whole,
    Bool.and_eq_true, decide_eq_true_eq]
  split <;> rfl

theorem whole?_of_place? {length place : Nat} (found : value.place? length = .ok (some place)) :
    value.whole? = some (place : Int) ∧ place < length := by
  cases counts : value.whole? with
  | none =>
    have noWhole : value.whole = .error .wrongKind := by rw [whole, counts]
    rw [place?, noWhole] at found
    cases number : value.number with
    | error fault =>
      rw [number] at found
      cases found
    | ok n =>
      simp only [number, bind, Except.bind, pure, Except.pure] at found
      split at found <;> cases found
  | some i =>
    rw [place?_of_whole? counts, Except.ok.injEq] at found
    split at found
    case isTrue inside =>
      obtain rfl := Option.some.inj found
      have back := Int.toNat_of_nonneg inside.1
      refine ⟨by rw [back], ?_⟩
      omega
    case isFalse => cases found

end TokenEditor.Value
