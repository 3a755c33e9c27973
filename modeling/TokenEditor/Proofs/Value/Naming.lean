import Mathlib.Data.List.Basic
import TokenEditor.Payload

/-!
# What values name

Sequences and cursors are only named by a value. What it shows, and what it is written as, depends
on how those look that it names, and on no others.
-/

namespace TokenEditor

namespace Value

mutual

/-- Whether all names of sequences and cursors in a value are known. -/
def namesOnly (known : Value → Bool) : Value → Bool
  | sequence id => known (sequence id)
  | item id => known (item id)
  | range id => known (range id)
  | list items | tuple items | stream items | literal items => nameOnly known items
  | dict entries => pairsNameOnly known entries
  | transform callable => namesOnly known callable
  | _ => true

def nameOnly (known : Value → Bool) : List Value → Bool
  | [] => true
  | value :: rest => namesOnly known value && nameOnly known rest

def pairsNameOnly (known : Value → Bool) : List (String × Value) → Bool
  | [] => true
  | (_, value) :: rest => namesOnly known value && pairsNameOnly known rest

end

theorem quoted_sequence (view : View) (id : SequenceId) :
    (sequence id).quoted view =
      "TokenSequence(" ++ listed ((view.entries id).map quotedEntry) ++ ")" := rfl

theorem nameOnly_iff {known : Value → Bool} {items : List Value} :
    nameOnly known items = true ↔ ∀ item ∈ items, item.namesOnly known = true := by
  induction items with
  | nil => simp [nameOnly]
  | cons value rest ih => simp [nameOnly, ih]

end Value

/-- What is known looks the same in both views. -/
structure View.Alike (known : Value → Bool) (view other : View) : Prop where
  entries : ∀ id, known (.sequence id) = true → view.entries id = other.entries id
  itemText : ∀ id, known (.item id) = true → view.itemText id = other.itemText id
  rangeText : ∀ id, known (.range id) = true → view.rangeText id = other.rangeText id

theorem View.alike_nothing (view other : View) : View.Alike (fun _ => false) view other :=
  ⟨nofun, nofun, nofun⟩

namespace Value

variable {known : Value → Bool} {view other : View}

mutual

theorem quoted_of_alike (alike : View.Alike known view other) (value : Value)
    (named : value.namesOnly known = true) : value.quoted view = value.quoted other := by
  cases value with
  | list items => exact congrArg listed (quotedAll_of_alike alike items named)
  | tuple items => exact congrArg tupled (quotedAll_of_alike alike items named)
  | literal tokens =>
    exact congrArg (fun parts => "LiteralReplacement(tokens=" ++ tupled parts ++ ")")
      (quotedAll_of_alike alike tokens named)
  | dict entries =>
    exact congrArg (fun parts => "\x7b" ++ ", ".intercalate parts ++ "\x7d")
      (quotedPairs_of_alike alike entries named)
  | transform callable =>
    exact congrArg (fun part => "TransformReplacement(transform=" ++ part ++ ")")
      (quoted_of_alike alike callable named)
  | sequence id => rw [quoted_sequence, quoted_sequence, alike.entries id named]
  | item id => exact alike.itemText id named
  | range id => exact alike.rangeText id named
  | _ => rfl

theorem quotedAll_of_alike (alike : View.Alike known view other) (items : List Value)
    (named : nameOnly known items = true) : quotedAll view items = quotedAll other items := by
  cases items with
  | nil => rfl
  | cons value rest =>
    rw [nameOnly, Bool.and_eq_true] at named
    rw [quotedAll, quotedAll, quoted_of_alike alike value named.1,
      quotedAll_of_alike alike rest named.2]

theorem quotedPairs_of_alike (alike : View.Alike known view other)
    (entries : List (String × Value)) (named : pairsNameOnly known entries = true) :
    quotedPairs view entries = quotedPairs other entries := by
  cases entries with
  | nil => rfl
  | cons entry rest =>
    obtain ⟨key, value⟩ := entry
    rw [pairsNameOnly, Bool.and_eq_true] at named
    rw [quotedPairs, quotedPairs, quoted_of_alike alike value named.1,
      quotedPairs_of_alike alike rest named.2]

end

section Alike

variable (alike : View.Alike known view other)

include alike

theorem shown_of_alike {value : Value} (named : value.namesOnly known = true) :
    value.shown view = value.shown other := by
  cases value with
  | text s => rfl
  | sequence id => exact congrArg Entries.render (alike.entries id named)
  | _ => exact quoted_of_alike alike _ named

theorem elements?_of_alike {value : Value} (named : value.namesOnly known = true) :
    value.elements? view = value.elements? other := by
  cases value with
  | sequence id => rw [elements?, elements?, alike.entries id named]
  | _ => rfl

end Alike

theorem namesOnly_of_mem_elements? {value item : Value} {items : List Value}
    (named : value.namesOnly known = true) (found : value.elements? view = some items)
    (member : item ∈ items) : item.namesOnly known = true := by
  cases value with
  | list members =>
    cases found
    exact nameOnly_iff.mp named item member
  | tuple members =>
    cases found
    exact nameOnly_iff.mp named item member
  | stream members =>
    cases found
    exact nameOnly_iff.mp named item member
  | sequence id =>
    cases found
    obtain ⟨entry, -, rfl⟩ := List.mem_map.mp member
    cases entry <;> rfl
  | text s =>
    cases found
    obtain ⟨c, -, rfl⟩ := List.mem_map.mp member
    rfl
  | bytes octets =>
    cases found
    obtain ⟨octet, -, rfl⟩ := List.mem_map.mp member
    rfl
  | dict entries =>
    cases found
    obtain ⟨entry, -, rfl⟩ := List.mem_map.mp member
    rfl
  | _ => cases found

end Value

namespace Payload

variable {known : Value → Bool} {view other : View} (alike : View.Alike known view other)

include alike

theorem written?_of_alike {item : Value} (named : item.namesOnly known = true) :
    written? view item = written? other item := by
  cases item with
  | null => rfl
  | text s => rfl
  | _ => exact congrArg some (Value.shown_of_alike alike named)

theorem written_of_alike {run : Value} (named : run.namesOnly known = true) :
    written view run = written other run := by
  have collection : (do return (← run.elements view).filterMap (written? view)) =
      (do return (← run.elements other).filterMap (written? other)) := by
    have same := Value.elements?_of_alike alike named
    cases found : run.elements? view with
    | none =>
      simp only [Value.elements, ← same, found]
      rfl
    | some items =>
      have written : items.filterMap (written? view) = items.filterMap (written? other) := by
        apply List.filterMap_congr
        intro item member
        exact written?_of_alike alike (Value.namesOnly_of_mem_elements? named found member)
      simp only [Value.elements, ← same, found]
      exact congrArg Except.ok written
  cases run with
  | null => rfl
  | text s => rfl
  | _ => exact collection

end Payload

end TokenEditor
