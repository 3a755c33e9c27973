import Mathlib.Data.Nat.Find
import TokenEditor.Operator.Table
import TokenEditor.Proofs.Operator.Grouping

/-!
# Maximal munch

Read from the left, characters can be cut so that each token is the longest operator that stands
there. This takes a look arbitrarily far ahead, where fusing looks at one character more each time.
For a table that has the beginnings of its operators too, the two come to the same: where one more
character does not make an operator, no longer stretch does either.
-/

namespace TokenEditor.Operator

/-- A table without spaces that has every beginning, of two characters or more, of its operators. -/
structure PrefixClosed (isOperator : String → Bool) : Prop where
  unspaced : ∀ operator, isOperator operator = true → ' ' ∉ operator.toList
  beginning : ∀ operator front, isOperator operator = true → front.toList <+: operator.toList →
    2 ≤ front.length → isOperator front = true

/-- How many characters the longest operator takes with which `chars` begin, among those that take
two or more; zero where there is none. -/
def longest (isOperator : String → Bool) (chars : List Char) : Nat :=
  Nat.findGreatest
    (fun count => 2 ≤ count ∧ isOperator (String.ofList (chars.take count)) = true) chars.length

/-- The tokens of `chars` where each is the longest operator that stands there, or else the next
character alone. -/
def munch (isOperator : String → Bool) : List Char → List String
  | [] => []
  | next :: rest =>
      let count := max 1 (longest isOperator (next :: rest))
      String.ofList ((next :: rest).take count) :: munch isOperator ((next :: rest).drop count)
termination_by chars => chars.length
decreasing_by
  rw [List.length_drop, List.length_cons]
  omega

section Longest

variable {isOperator : String → Bool} {chars : List Char}

theorem longest_le : longest isOperator chars ≤ chars.length :=
  Nat.findGreatest_le _

theorem le_longest {count : Nat} (within : count ≤ chars.length) (two : 2 ≤ count)
    (known : isOperator (String.ofList (chars.take count)) = true) :
    count ≤ longest isOperator chars :=
  Nat.le_findGreatest within ⟨two, known⟩

theorem known_of_longest (found : longest isOperator chars ≠ 0) :
    2 ≤ longest isOperator chars ∧
      isOperator (String.ofList (chars.take (longest isOperator chars))) = true :=
  Nat.findGreatest_of_ne_zero
    (P := fun count => 2 ≤ count ∧ isOperator (String.ofList (chars.take count)) = true) rfl found

end Longest

section Open

variable {isOperator : String → Bool} {front rest : List Char}

/-- What a token has grown to so far: a character, or an operator of two characters or more. -/
def IsOpen (isOperator : String → Bool) (front : List Char) : Prop :=
  front.length = 1 ∨ 2 ≤ front.length ∧ isOperator (String.ofList front) = true

/-- Where the next character makes no operator, no operator reaches as far as that character. -/
theorem PrefixClosed.longest_le_of_stuck (closed : PrefixClosed isOperator) (notNil : front ≠ [])
    (stuck : ∀ next, rest.head? = some next →
      isOperator (String.ofList (front ++ [next])) = false) :
    longest isOperator (front ++ rest) ≤ front.length := by
  by_contra beyond
  have more : front.length < longest isOperator (front ++ rest) := Nat.lt_of_not_le beyond
  have within : longest isOperator (front ++ rest) ≤ (front ++ rest).length := longest_le
  obtain ⟨-, known⟩ := known_of_longest (Nat.ne_of_gt (Nat.zero_lt_of_lt more))
  cases rest with
  | nil =>
    rw [List.append_nil] at more within
    omega
  | cons next rest =>
    have reaches : front ++ [next] <+:
        (front ++ next :: rest).take (longest isOperator (front ++ next :: rest)) := by
      rw [List.prefix_take_iff]
      refine ⟨⟨rest, by simp⟩, ?_⟩
      rw [List.length_append]
      exact more
    have two : 2 ≤ (String.ofList (front ++ [next])).length := by
      have one := List.length_pos_iff.mpr notNil
      rw [String.length_ofList, List.length_append, List.length_singleton]
      omega
    have grown := closed.beginning _ (String.ofList (front ++ [next])) known
      (by simpa only [String.toList_ofList] using reaches) two
    rw [stuck next rfl] at grown
    cases grown

/-- An open token that cannot grow by the next character is the first that is munched. -/
theorem PrefixClosed.munch_of_stuck (closed : PrefixClosed isOperator)
    (isOpen : IsOpen isOperator front)
    (stuck : ∀ next, rest.head? = some next →
      isOperator (String.ofList (front ++ [next])) = false) :
    munch isOperator (front ++ rest) = String.ofList front :: munch isOperator rest := by
  have notNil : front ≠ [] := by
    rintro rfl
    rcases isOpen with one | ⟨two, -⟩
    · cases one
    · cases two
  have atMost := closed.longest_le_of_stuck notNil stuck
  have taken : max 1 (longest isOperator (front ++ rest)) = front.length := by
    rcases isOpen with one | ⟨two, known⟩
    · omega
    · have atLeast : front.length ≤ longest isOperator (front ++ rest) := by
        apply le_longest (by simp) two
        rw [List.take_left]
        exact known
      omega
  obtain ⟨next, front, rfl⟩ := List.exists_cons_of_ne_nil notNil
  rw [List.cons_append] at taken ⊢
  rw [munch, taken, ← List.cons_append, List.take_left, List.drop_left]

end Open

section Fusing

variable {isOperator : String → Bool}

/-- In a table without spaces, only the spelling without one can be found. -/
theorem PrefixClosed.join?_singleton (closed : PrefixClosed isOperator) (front : List Char)
    (next : Char) :
    join? isOperator (String.ofList front) (String.singleton next) =
      if isOperator (String.ofList (front ++ [next])) = true
        then some (String.ofList (front ++ [next])) else none := by
  have direct : String.ofList front ++ String.singleton next = String.ofList (front ++ [next]) := by
    rw [String.ofList_append, String.singleton_eq_ofList]
  split
  case isTrue known => rw [join?_of_joined (direct ▸ known), direct]
  case isFalse unknown =>
    rw [join?_eq_none_iff, direct]
    refine ⟨Bool.eq_false_iff.mpr unknown, Bool.eq_false_iff.mpr fun spaced => ?_⟩
    apply closed.unspaced _ spaced
    simp [String.toList_append]

/-- While an open token is being fused, what is left to munch begins with it. -/
theorem PrefixClosed.fuseFrom_eq_munch (closed : PrefixClosed isOperator) (front rest : List Char)
    (isOpen : IsOpen isOperator front) :
    fuseFrom isOperator (String.ofList front) (rest.map String.singleton) =
      munch isOperator (front ++ rest) := by
  induction rest generalizing front with
  | nil =>
    rw [closed.munch_of_stuck isOpen (by simp), munch]
    rfl
  | cons next rest ih =>
    rw [List.map_cons, fuseFrom, closed.join?_singleton]
    cases known : isOperator (String.ofList (front ++ [next])) with
    | true =>
      have longer : IsOpen isOperator (front ++ [next]) := by
        refine .inr ⟨?_, known⟩
        rcases isOpen with one | ⟨two, -⟩
        · simp [one]
        · simp only [List.length_append, List.length_singleton]
          omega
      have shifted := ih (front ++ [next]) longer
      rw [List.append_assoc, List.singleton_append] at shifted
      exact shifted
    | false =>
      have stuck : ∀ c, (next :: rest).head? = some c →
          isOperator (String.ofList (front ++ [c])) = false := by
        intro c first
        obtain rfl := Option.some.inj first
        exact known
      have single := ih [next] (.inl rfl)
      rw [closed.munch_of_stuck isOpen stuck]
      exact congrArg _ single

/-- For a table with all beginnings, fusing characters munches as much as can be munched. -/
theorem fuse_singletons_eq_munch (closed : PrefixClosed isOperator) (chars : List Char) :
    fuse isOperator (chars.map String.singleton) = munch isOperator chars := by
  cases chars with
  | nil => rw [List.map_nil, munch, fuse]
  | cons next rest => exact closed.fuseFrom_eq_munch [next] rest (.inl rfl)

theorem prefixClosed_symbols : PrefixClosed symbols.contains where
  unspaced operator known := by
    have each : ∀ operator ∈ symbols, (operator.toList.all (· != ' ')) = true := by decide +kernel
    have plain := List.all_eq_true.mp (each operator (List.contains_iff_mem.mp known))
    intro spaced
    simpa using plain ' ' spaced
  beginning operator front known begins two := by
    have each : ∀ operator ∈ symbols, ∀ count ∈ List.range (operator.length + 1), 2 ≤ count →
        symbols.contains (String.ofList (operator.toList.take count)) = true := by decide +kernel
    have length : front.length ≤ operator.length := by
      simpa only [String.length_toList] using begins.length_le
    have beginning := each operator (List.contains_iff_mem.mp known) front.length
      (List.mem_range.mpr (Nat.lt_succ_of_le length)) two
    rw [← String.length_toList, ← List.prefix_iff_eq_take.mp begins, String.ofList_toList]
      at beginning
    exact beginning

theorem fuse_symbols_eq_munch :
    PrefixClosed symbols.contains ∧
    fuse symbols.contains ("(->>=!~*<@>".toList.map String.singleton) =
      ["(", "->>", "=", "!~*", "<@", ">"] ∧
    munch symbols.contains "(->>=!~*<@>".toList = ["(", "->>", "=", "!~*", "<@", ">"] := by
  have fused : fuse symbols.contains ("(->>=!~*<@>".toList.map String.singleton) =
      ["(", "->>", "=", "!~*", "<@", ">"] := by decide +kernel
  exact ⟨prefixClosed_symbols, fused,
    (fuse_singletons_eq_munch prefixClosed_symbols _).symm.trans fused⟩

end Fusing

end TokenEditor.Operator
