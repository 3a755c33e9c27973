import TokenEditor.Decimal.Notation
import TokenEditor.Value.View

/-!
# What values show

Whatever a value is, its quoted form has something to read, unless it is the name of a cursor of
which nothing can be seen. Only a text and a sequence can show nothing: a sequence does so if none
of its entries is to be rendered.
-/

namespace TokenEditor

namespace Decimal

theorem positional_ne_nil (digits : List Char) (point : Int) : positional digits point ≠ [] := by
  unfold positional
  split
  case isTrue => simp
  case isFalse => split <;> simp

theorem scientific_ne_nil (digits : List Char) (exponent : Int) :
    scientific digits exponent ≠ [] := by
  simp [scientific]

theorem Digits.write_ne_nil (number : Digits) : number.write ≠ [] := by
  simp only [Digits.write]
  split
  case isTrue => exact positional_ne_nil _ _
  case isFalse => exact scientific_ne_nil _ _

theorem signed_ne_empty {text : String} (negative : Bool) (some : text ≠ "") :
    signed negative text ≠ "" := by
  cases negative with
  | true => simp [signed]
  | false => exact some

theorem write_ne_empty (x : Float) : write x ≠ "" := by
  unfold write
  split
  case h_1 => decide
  case h_2 => exact signed_ne_empty _ (by decide)
  case h_3 => exact signed_ne_empty _ (by decide)
  case h_4 =>
    refine signed_ne_empty _ fun empty => ?_
    exact Digits.write_ne_nil _ (String.ofList_eq_empty_iff.mp empty)

end Decimal

theorem enclosed_ne_empty {opening : String} (inside closing : String) (some : opening ≠ "") :
    opening ++ inside ++ closing ≠ "" := by
  simp [some]

theorem Text.Quoted.enclose_ne_empty (mark : Char) (body : List Char) : enclose mark body ≠ "" := by
  simp [enclose]

theorem Text.Quoted.encodeBytes_ne_empty (bytes : List Nat) : encodeBytes bytes ≠ "" := by
  simp [encodeBytes]

namespace Value

theorem toString_int_ne_empty (i : Int) : toString i ≠ "" := by
  cases i with
  | ofNat n => exact Nat.repr_ne_empty
  | negSucc n =>
    intro empty
    have parts : "-" ++ (n + 1).repr = "" := empty
    simp at parts

theorem tupled_ne_empty (parts : List String) : tupled parts ≠ "" := by
  unfold tupled
  split <;> simp

theorem quoted_ne_empty (view : View) {value : Value} (noItem : ∀ id, value ≠ .item id)
    (noRange : ∀ id, value ≠ .range id) : value.quoted view ≠ "" := by
  cases value with
  | null => exact show "None" ≠ "" by decide
  | bool b =>
    cases b with
    | true => exact show "True" ≠ "" by decide
    | false => exact show "False" ≠ "" by decide
  | int i => exact toString_int_ne_empty i
  | float x => exact Decimal.write_ne_empty x
  | nan => exact show "nan" ≠ "" by decide
  | text s => exact Text.Quoted.enclose_ne_empty _ _
  | list items => exact enclosed_ne_empty _ _ (by decide)
  | tuple items => exact tupled_ne_empty _
  | stream => exact show "<iterator>" ≠ "" by decide
  | bytes octets => exact Text.Quoted.encodeBytes_ne_empty octets
  | dict entries => exact enclosed_ne_empty _ _ (by decide)
  | literal tokens => exact enclosed_ne_empty _ _ (by decide)
  | transform callable => exact enclosed_ne_empty _ _ (by decide)
  | function => exact show "<function>" ≠ "" by decide
  | predicate => exact show "<function>" ≠ "" by decide
  | sequence id => exact enclosed_ne_empty _ _ (by decide)
  | item id => exact absurd rfl (noItem id)
  | range id => exact absurd rfl (noRange id)

end Value

namespace Entries

def isGap (entry : Entry) : Bool := entry.filter (· ≠ "") = none

def gaps (entries : List Entry) : Nat := entries.countP isGap

theorem spaced_eq_empty_iff {parts : List String} (written : ∀ part ∈ parts, part ≠ "") :
    spaced parts = "" ↔ parts = [] := by
  cases parts with
  | nil => simp [spaced]
  | cons part rest =>
    have := written part (by simp)
    cases rest with
    | nil => simpa [spaced]
    | cons next rest => simp [spaced, String.intercalate_cons_cons, this]

theorem render_eq_empty_iff (entries : List Entry) :
    render entries = "" ↔ entries.all isGap = true := by
  have written : ∀ part ∈ entries.filterMap (fun entry => entry.filter (· ≠ "")), part ≠ "" := by
    intro part member
    obtain ⟨entry, -, kept⟩ := List.mem_filterMap.mp member
    simpa using (Option.filter_eq_some_iff.mp kept).2
  rw [render, spaced_eq_empty_iff written, List.filterMap_eq_nil_iff, List.all_eq_true]
  simp [isGap]

end Entries

/-- A text shows itself, and a sequence what it is rendered as. -/
theorem Value.shown_eq_empty_iff (view : View) (value : Value) :
    value.shown view = "" ↔ value = .text "" ∨
      (∃ id, value = .sequence id ∧ (view.entries id).all Entries.isGap = true) ∨
      (∃ id, value = .item id ∧ view.itemText id = "") ∨
        ∃ id, value = .range id ∧ view.rangeText id = "" := by
  cases value with
  | text s => simp [shown]
  | sequence id =>
    rw [shown, Entries.render_eq_empty_iff]
    simp
  | item id =>
    have shows : (item id).shown view = view.itemText id := rfl
    simp [shows]
  | range id =>
    have shows : (range id).shown view = view.rangeText id := rfl
    simp [shows]
  | _ => simpa [shown] using quoted_ne_empty view (by simp) (by simp)

end TokenEditor
