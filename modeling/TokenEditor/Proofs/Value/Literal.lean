import TokenEditor.Proofs.Value.Naming

/-!
# Values that name nothing

A value that names no sequence and no cursor looks the same in every workspace, and so does what it
is written as.
-/

namespace TokenEditor

namespace Value

mutual

/-- Whether a value names no sequence and no cursor, nor has one in it. -/
def isLiteral : Value → Bool
  | sequence _ | item _ | range _ => false
  | list items | tuple items | stream items | literal items => areLiteral items
  | dict entries => pairsAreLiteral entries
  | transform callable => isLiteral callable
  | _ => true

def areLiteral : List Value → Bool
  | [] => true
  | value :: rest => isLiteral value && areLiteral rest

def pairsAreLiteral : List (String × Value) → Bool
  | [] => true
  | (_, value) :: rest => isLiteral value && pairsAreLiteral rest

end

theorem areLiteral_iff {items : List Value} :
    areLiteral items = true ↔ ∀ item ∈ items, item.isLiteral = true := by
  induction items with
  | nil => simp [areLiteral]
  | cons value rest ih => simp [areLiteral, ih]

theorem isLiteral_ofEntry (entry : Entry) : (ofEntry entry).isLiteral = true := by
  cases entry <;> rfl

theorem isLiteral_ofEntries (entries : List Entry) : (ofEntries entries).isLiteral = true := by
  apply areLiteral_iff.mpr
  intro item member
  obtain ⟨entry, -, rfl⟩ := List.mem_map.mp member
  exact isLiteral_ofEntry entry

mutual

theorem namesOnly_of_isLiteral (known : Value → Bool) (value : Value)
    (named : value.isLiteral = true) : value.namesOnly known = true := by
  cases value with
  | list items | tuple items | stream items | literal items =>
    exact nameOnly_of_areLiteral known items named
  | dict entries => exact pairsNameOnly_of_areLiteral known entries named
  | transform callable => exact namesOnly_of_isLiteral known callable named
  | sequence id | item id | range id => simp [isLiteral] at named
  | _ => rfl

theorem nameOnly_of_areLiteral (known : Value → Bool) (items : List Value)
    (named : areLiteral items = true) : nameOnly known items = true := by
  cases items with
  | nil => rfl
  | cons value rest =>
    rw [areLiteral, Bool.and_eq_true] at named
    rw [nameOnly, namesOnly_of_isLiteral known value named.1,
      nameOnly_of_areLiteral known rest named.2]
    rfl

theorem pairsNameOnly_of_areLiteral (known : Value → Bool) (entries : List (String × Value))
    (named : pairsAreLiteral entries = true) : pairsNameOnly known entries = true := by
  cases entries with
  | nil => rfl
  | cons entry rest =>
    obtain ⟨key, value⟩ := entry
    rw [pairsAreLiteral, Bool.and_eq_true] at named
    rw [pairsNameOnly, namesOnly_of_isLiteral known value named.1,
      pairsNameOnly_of_areLiteral known rest named.2]
    rfl

end

theorem shown_of_isLiteral (view other : View) {value : Value} (named : value.isLiteral = true) :
    value.shown view = value.shown other :=
  shown_of_alike (View.alike_nothing view other) (namesOnly_of_isLiteral _ value named)

end Value

theorem Payload.written_of_isLiteral (view other : View) {run : Value}
    (named : run.isLiteral = true) : written view run = written other run :=
  written_of_alike (View.alike_nothing view other) (Value.namesOnly_of_isLiteral _ run named)

end TokenEditor
