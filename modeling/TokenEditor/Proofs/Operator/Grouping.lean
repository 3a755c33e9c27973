import TokenEditor.Operator.Fusion

/-!
# Groups of pieces

Fusing cuts the pieces into groups, one for each token. A token grows from the first piece of its
group by joining the others one by one, and it ends where the next piece can be joined in neither
spelling. These two rules leave no choice, so that the cut is unique.
-/

namespace TokenEditor.Operator

/-- A value grows to a token by joining pieces, each as it stands if that is an operator, and with a
space between if only that is one. -/
inductive Grown (isOperator : String → Bool) : String → List String → String → Prop
  | done {value : String} : Grown isOperator value [] value
  | joined {value piece token : String} {rest : List String} :
      isOperator (value ++ piece) = true → Grown isOperator (value ++ piece) rest token →
      Grown isOperator value (piece :: rest) token
  | spaced {value piece token : String} {rest : List String} :
      isOperator (value ++ piece) = false → isOperator (value ++ " " ++ piece) = true →
      Grown isOperator (value ++ " " ++ piece) rest token →
      Grown isOperator value (piece :: rest) token

/-- The next piece, if there is one, is joined to a token in neither spelling. -/
def Ends (isOperator : String → Bool) (token : String) (rest : List String) : Prop :=
  ∀ piece, rest.head? = some piece →
    isOperator (token ++ piece) = false ∧ isOperator (token ++ " " ++ piece) = false

/-- Groups of pieces and the tokens that grow from them, each ending where the next group begins. -/
inductive Grouping (isOperator : String → Bool) : List (List String) → List String → Prop
  | nil : Grouping isOperator [] []
  | cons {first token : String} {rest : List String} {groups : List (List String)}
      {tokens : List String} :
      Grown isOperator first rest token → Ends isOperator token groups.flatten →
      Grouping isOperator groups tokens →
      Grouping isOperator ((first :: rest) :: groups) (token :: tokens)

section Joining

variable {isOperator : String → Bool} {value piece : String}

theorem join?_of_joined (known : isOperator (value ++ piece) = true) :
    join? isOperator value piece = some (value ++ piece) := by
  simp [join?, spellings, known]

theorem join?_of_spaced (unknown : isOperator (value ++ piece) = false)
    (known : isOperator (value ++ " " ++ piece) = true) :
    join? isOperator value piece = some (value ++ " " ++ piece) := by
  simp [join?, spellings, unknown, known]

theorem join?_eq_none_iff :
    join? isOperator value piece = none ↔
      isOperator (value ++ piece) = false ∧ isOperator (value ++ " " ++ piece) = false := by
  simp [join?, spellings]

theorem join?_eq_some {joined : String} (found : join? isOperator value piece = some joined) :
    (isOperator (value ++ piece) = true ∧ joined = value ++ piece) ∨
      isOperator (value ++ piece) = false ∧ isOperator (value ++ " " ++ piece) = true ∧
        joined = value ++ " " ++ piece := by
  cases direct : isOperator (value ++ piece) with
  | true =>
    rw [join?_of_joined direct] at found
    exact .inl ⟨rfl, (Option.some.inj found).symm⟩
  | false =>
    cases apart : isOperator (value ++ " " ++ piece) with
    | true =>
      rw [join?_of_spaced direct apart] at found
      exact .inr ⟨rfl, rfl, (Option.some.inj found).symm⟩
    | false =>
      rw [join?_eq_none_iff.mpr ⟨direct, apart⟩] at found
      cases found

theorem Grown.of_join? {joined token : String} {rest : List String}
    (found : join? isOperator value piece = some joined)
    (grown : Grown isOperator joined rest token) :
    Grown isOperator value (piece :: rest) token := by
  rcases join?_eq_some found with ⟨direct, rfl⟩ | ⟨direct, apart, rfl⟩
  · exact .joined direct grown
  · exact .spaced direct apart grown

theorem Grown.join? {token : String} {rest : List String}
    (grown : Grown isOperator value (piece :: rest) token) :
    ∃ joined, Operator.join? isOperator value piece = some joined ∧
      Grown isOperator joined rest token := by
  cases grown with
  | joined direct grown => exact ⟨_, join?_of_joined direct, grown⟩
  | spaced direct apart grown => exact ⟨_, join?_of_spaced direct apart, grown⟩

theorem ends_nil (token : String) : Ends isOperator token [] := by
  intro piece none
  cases none

theorem ends_cons {token : String} {rest : List String} :
    Ends isOperator token (piece :: rest) ↔ Operator.join? isOperator token piece = none := by
  rw [join?_eq_none_iff]
  constructor
  · exact fun ends => ends piece rfl
  · intro apart other next
    obtain rfl := Option.some.inj next
    exact apart

end Joining

theorem Grown.isPrefix {isOperator : String → Bool} {value token : String} {rest : List String}
    (grown : Grown isOperator value rest token) : value.toList <+: token.toList := by
  induction grown with
  | done => exact List.prefix_refl _
  | joined _ _ ih =>
    rw [String.toList_append] at ih
    exact (List.prefix_append _ _).trans ih
  | spaced _ _ _ ih =>
    rw [String.toList_append, String.toList_append, List.append_assoc] at ih
    exact (List.prefix_append _ _).trans ih

section NotEmpty

variable {isOperator : String → Bool}

theorem append_ne_empty {front back : String} (notEmpty : front ≠ "") : front ++ back ≠ "" := by
  intro empty
  have lists := congrArg String.toList empty
  rw [String.toList_append] at lists
  exact notEmpty (String.toList_eq_nil_iff.mp (List.append_eq_nil_iff.mp lists).1)

theorem Grown.ne_empty {value token : String} {rest : List String}
    (grown : Grown isOperator value rest token) (notEmpty : value ≠ "") : token ≠ "" := by
  induction grown with
  | done => exact notEmpty
  | joined _ _ ih => exact ih (append_ne_empty notEmpty)
  | spaced _ _ _ ih => exact ih (append_ne_empty (append_ne_empty notEmpty))

theorem Grouping.ne_empty {groups : List (List String)} {tokens : List String}
    (grouping : Grouping isOperator groups tokens)
    (notEmpty : ∀ piece ∈ groups.flatten, piece ≠ "") : ∀ token ∈ tokens, token ≠ "" := by
  induction grouping with
  | nil => simp
  | @cons first _ _ _ _ grows _ _ ih =>
    intro token member
    rcases List.mem_cons.mp member with rfl | member
    · exact grows.ne_empty (notEmpty first (by simp))
    · exact ih (fun piece inside => notEmpty piece (by simp [inside])) token member

end NotEmpty

section Groups

variable {isOperator : String → Bool}

/-- The open token takes what it can grow by, and the pieces after it are grouped. -/
theorem fuseFrom_grouping (isOperator : String → Bool) (value : String) (pieces : List String) :
    ∃ grown token groups tokens, pieces = grown ++ groups.flatten ∧
      fuseFrom isOperator value pieces = token :: tokens ∧
      Grown isOperator value grown token ∧ Ends isOperator token groups.flatten ∧
      Grouping isOperator groups tokens := by
  induction pieces generalizing value with
  | nil => exact ⟨[], value, [], [], rfl, rfl, .done, ends_nil value, .nil⟩
  | cons piece pieces ih =>
    cases found : join? isOperator value piece with
    | some joined =>
      obtain ⟨grown, token, groups, tokens, rfl, fused, grows, ends, grouping⟩ := ih joined
      refine ⟨piece :: grown, token, groups, tokens, rfl, ?_, grows.of_join? found, ends, grouping⟩
      simp only [fuseFrom, found, fused]
    | none =>
      obtain ⟨grown, token, groups, tokens, rfl, fused, grows, ends, grouping⟩ := ih piece
      refine ⟨[], value, (piece :: grown) :: groups, token :: tokens, by simp, ?_, .done, ?_,
        .cons grows ends grouping⟩
      · simp only [fuseFrom, found, fused]
      · simpa using ends_cons.mpr found

theorem exists_grouping_fuse (isOperator : String → Bool) (pieces : List String) :
    ∃ groups, groups.flatten = pieces ∧ Grouping isOperator groups (fuse isOperator pieces) := by
  cases pieces with
  | nil => exact ⟨[], rfl, .nil⟩
  | cons piece pieces =>
    obtain ⟨grown, token, groups, tokens, rfl, fused, grows, ends, grouping⟩ :=
      fuseFrom_grouping isOperator piece pieces
    refine ⟨(piece :: grown) :: groups, by simp, ?_⟩
    rw [fuse, fused]
    exact .cons grows ends grouping

theorem exists_fuse_cons (isOperator : String → Bool) (piece : String) (pieces : List String) :
    ∃ token tokens, fuse isOperator (piece :: pieces) = token :: tokens ∧
      piece.toList <+: token.toList := by
  obtain ⟨_, token, _, tokens, -, fused, grows, -, -⟩ := fuseFrom_grouping isOperator piece pieces
  exact ⟨token, tokens, fused, grows.isPrefix⟩

/-- From the same value, pieces are taken by one token as far as by the other. -/
theorem Grown.unique {value token token' : String} {grown grown' rest rest' : List String}
    (grows : Grown isOperator value grown token) (ends : Ends isOperator token rest)
    (grows' : Grown isOperator value grown' token') (ends' : Ends isOperator token' rest')
    (same : grown ++ rest = grown' ++ rest') : grown = grown' ∧ token = token' := by
  -- Where one token has ended and the other goes on, the piece between them would have to be
  -- joined and not to be joined.
  induction grown generalizing value grown' with
  | nil =>
    cases grows
    cases grown' with
    | nil =>
      cases grows'
      exact ⟨rfl, rfl⟩
    | cons piece grown' =>
      obtain ⟨joined, found, -⟩ := grows'.join?
      rw [List.nil_append] at same
      rw [same] at ends
      rw [ends_cons.mp ends] at found
      cases found
  | cons piece grown ih =>
    obtain ⟨joined, found, grows⟩ := grows.join?
    cases grown' with
    | nil =>
      cases grows'
      rw [List.nil_append] at same
      rw [← same] at ends'
      rw [ends_cons.mp ends'] at found
      cases found
    | cons piece' grown' =>
      obtain ⟨rfl, left⟩ := List.cons.inj same
      obtain ⟨joined', found', grows'⟩ := grows'.join?
      obtain rfl := Option.some.inj (found.symm.trans found')
      obtain ⟨rfl, rfl⟩ := ih grows grows' left
      exact ⟨rfl, rfl⟩

theorem Grouping.unique {groups groups' : List (List String)} {tokens tokens' : List String}
    (grouping : Grouping isOperator groups tokens)
    (grouping' : Grouping isOperator groups' tokens') (same : groups.flatten = groups'.flatten) :
    groups = groups' ∧ tokens = tokens' := by
  induction grouping generalizing groups' tokens' with
  | nil =>
    cases grouping' with
    | nil => exact ⟨rfl, rfl⟩
    | cons => simp at same
  | cons grows ends _ ih =>
    cases grouping' with
    | nil => simp at same
    | cons grows' ends' grouping' =>
      simp only [List.flatten_cons, List.cons_append, List.cons.injEq] at same
      obtain ⟨rfl, same⟩ := same
      obtain ⟨rfl, rfl⟩ := grows.unique ends grows' ends' same
      obtain ⟨rfl, rfl⟩ := ih grouping' (List.append_cancel_left same)
      exact ⟨rfl, rfl⟩

theorem Grouping.fuse_eq {groups : List (List String)} {tokens : List String}
    (grouping : Grouping isOperator groups tokens) :
    fuse isOperator groups.flatten = tokens := by
  obtain ⟨_, same, fused⟩ := exists_grouping_fuse isOperator groups.flatten
  exact (fused.unique grouping same).2

theorem ne_empty_of_mem_fuse {pieces : List String} (notEmpty : ∀ piece ∈ pieces, piece ≠ "") :
    ∀ token ∈ fuse isOperator pieces, token ≠ "" := by
  obtain ⟨groups, rfl, grouping⟩ := exists_grouping_fuse isOperator pieces
  exact grouping.ne_empty notEmpty

/-- There is one way to group the pieces, and fusing finds it. -/
theorem fuse_unique_grouping (isOperator : String → Bool) (pieces : List String) :
    ∃ groups, (groups.flatten = pieces ∧ Grouping isOperator groups (fuse isOperator pieces)) ∧
      ∀ groups' tokens, groups'.flatten = pieces → Grouping isOperator groups' tokens →
        groups' = groups ∧ tokens = fuse isOperator pieces := by
  obtain ⟨groups, whole, grouping⟩ := exists_grouping_fuse isOperator pieces
  refine ⟨groups, ⟨whole, grouping⟩, ?_⟩
  intro groups' tokens whole' grouping'
  exact grouping'.unique grouping (whole'.trans whole.symm)

end Groups

end TokenEditor.Operator
