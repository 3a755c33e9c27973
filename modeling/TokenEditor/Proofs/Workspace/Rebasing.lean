import Mathlib.Algebra.Ring.Int.Defs
import TokenEditor.Proofs.Workspace.Effects

/-!
# Rebasing

Entries are moved by what is written before them, so an index goes with its entry if it is moved by
as many places. Where each replacement of a run is followed like this, an index that is never among
the entries replaced ends up at the entry from which it came.
-/

namespace TokenEditor

/-- The entries from `start` up to `stop` give way to `count` tokens. -/
structure Replacement where
  start : Int
  stop : Int
  count : Nat
  deriving DecidableEq

namespace Replacement

def shift (r : Replacement) : Int := r.count - (r.stop - r.start)

/-- Where an index stands after a replacement; among the entries replaced it is lost. -/
def rebase? (r : Replacement) (index : Int) : Option Int :=
  if index < r.start then some index
  else if r.stop ≤ index then some (index + r.shift)
  else none

def follow? (replacements : List Replacement) (index : Int) : Option Int :=
  replacements.foldlM (fun index r => r.rebase? index) index

theorem follow?_append (first second : List Replacement) (index : Int) :
    follow? (first ++ second) index = (follow? first index).bind (follow? second) := by
  rw [follow?, List.foldlM_append]
  rfl

@[simp] theorem follow?_singleton (r : Replacement) (index : Int) :
    follow? [r] index = r.rebase? index := by
  simp [follow?]

theorem rebase?_ordered {r : Replacement} {i j before after : Int}
    (less : i < j) (first : r.rebase? i = some before) (second : r.rebase? j = some after) :
    before < after := by
  unfold rebase? shift at first second
  split at first <;> split at second <;> grind

end Replacement

open Replacement

/-- Whatever `replacements` leave of the entries `before` is found again among the entries `after`,
where following them leads. -/
structure Rebased (replacements : List Replacement) (before after : List Entry) : Prop where
  kept : ∀ (i : Nat) (j : Int) (entry : Entry), before[i]? = some entry →
    follow? replacements i = some j → ∃ place : Nat, j = place ∧ after[place]? = some entry
  ordered : ∀ i i' j j' : Int, i < i' → follow? replacements i = some j →
    follow? replacements i' = some j' → j < j'
  length : (after.length : Int) = before.length + (replacements.map shift).sum

namespace Rebased

variable {before middle after : List Entry} {first second : List Replacement}

theorem refl (entries : List Entry) : Rebased [] entries entries where
  kept i j entry found followed := ⟨i, (Option.some.inj followed).symm, found⟩
  ordered i i' j j' less first second := by
    rwa [← Option.some.inj first, ← Option.some.inj second]
  length := by simp

theorem trans (one : Rebased first before middle) (other : Rebased second middle after) :
    Rebased (first ++ second) before after where
  kept i j entry found followed := by
    rw [follow?_append, Option.bind_eq_some_iff] at followed
    obtain ⟨k, begun, ended⟩ := followed
    obtain ⟨place, rfl, there⟩ := one.kept i k entry found begun
    exact other.kept place j entry there ended
  ordered i i' j j' less followed followed' := by
    rw [follow?_append, Option.bind_eq_some_iff] at followed followed'
    obtain ⟨k, begun, ended⟩ := followed
    obtain ⟨k', begun', ended'⟩ := followed'
    exact other.ordered k k' j j' (one.ordered i i' k k' less begun begun') ended ended'
  length := by
    rw [other.length, one.length, List.map_append, List.sum_append, Int.add_assoc]

end Rebased

namespace Entries

variable {entries : List Entry} {start stop : Nat} (run : List String)

theorem getElem?_splice_before {place : Nat} (within : start ≤ entries.length)
    (before : place < start) : (splice entries start stop run)[place]? = entries[place]? := by
  have inside : place < (entries.take start).length := by
    rw [List.length_take_of_le within]
    exact before
  rw [splice, List.append_assoc, List.getElem?_append_left inside,
    List.getElem?_take_of_lt before]

theorem getElem?_splice_behind (within : start ≤ entries.length) (distance : Nat) :
    (splice entries start stop run)[start + run.length + distance]? =
      entries[stop + distance]? := by
  have written : (entries.take start ++ run.map some).length = start + run.length := by
    rw [List.length_append, List.length_take_of_le within, List.length_map]
  rw [splice, List.getElem?_append_right (by omega), written, Nat.add_sub_cancel_left,
    List.getElem?_drop]

theorem rebased_splice (ordered : start ≤ stop) (within : stop ≤ entries.length) :
    Rebased [⟨start, stop, run.length⟩] entries (splice entries start stop run) where
  kept i j entry found followed := by
    have inside : start ≤ entries.length := Nat.le_trans ordered within
    rw [follow?_singleton, rebase?] at followed
    split at followed
    case isTrue before =>
      refine ⟨i, (Option.some.inj followed).symm, ?_⟩
      rw [getElem?_splice_before run inside (Int.ofNat_lt.mp before), found]
    case isFalse =>
      split at followed
      case isTrue behind =>
        obtain ⟨distance, rfl⟩ := Nat.exists_eq_add_of_le (Int.ofNat_le.mp behind)
        refine ⟨start + run.length + distance, ?_, ?_⟩
        · rw [← Option.some.inj followed, shift]
          push_cast
          omega
        · rw [getElem?_splice_behind run inside distance, found]
      case isFalse => cases followed
  ordered i i' j j' less first second := by
    rw [follow?_singleton] at first second
    exact rebase?_ordered less first second
  length := by
    have balance := length_splice run ordered within
    simp only [List.map_cons, List.map_nil, List.sum_cons, List.sum_nil, shift]
    omega

end Entries

namespace Workspace

/-- What a request replaces in the sequence `id`: the entries between the places that it names, if
it is answered with a cursor over the tokens that it offers. -/
def replacement? (w : Workspace) (host : Host) (id : SequenceId) (request : Request) :
    Option Replacement :=
  match w.offer? host request, (w.perform host request).2.answer with
  | some ⟨.ok offer, _⟩, .ok (.range _) => do
      let (start, stop) ← offer.opening.bounds?
      let written ← (Payload.written w.view offer.run).toOption
      if offer.owner = id then some ⟨start, stop, written.length⟩ else none
  | _, _ => none

def replacements (host : Host) (id : SequenceId) : Workspace → List Request → List Replacement
  | _, [] => []
  | w, request :: rest =>
      (w.replacement? host id request).toList ++
        replacements host id (w.perform host request).1 rest

section Performing

variable {w : Workspace} {host : Host} {request : Request} {id : SequenceId}

theorem replacement?_of_splice {edit : Edit}
    (plans : (w.plan host request).answer = .ok (.splice edit)) :
    w.replacement? host id request =
      if edit.owner = id then some ⟨edit.start, edit.stop, edit.run.length⟩ else none := by
  obtain ⟨offer, events, offers, accepts⟩ := exists_offer_of_splice plans
  have fits := fits_of_accept accepts
  rcases accept_cases accepts with none | ⟨same, splices, -, bounds, -⟩
  · cases none
  · cases splices
    unfold replacement?
    rw [offers, answer_perform_of_splice plans, fits.target]
    simp [bounds, fits.written, Except.toOption]

theorem replacement?_of_spares (spares : Spares (w.plan host request)) :
    w.replacement? host id request = none := by
  unfold replacement?
  split
  case h_1 offer events ranged offers answers =>
    have plans : (w.plan host request).answer = w.accept offer := by
      rw [plan_of_offer? offers]
      rfl
    cases accepted : w.accept offer with
    | error fault =>
      rw [accepted] at plans
      rw [(perform_of_error plans).1] at answers
      cases answers
    | ok change =>
      rw [accepted] at plans
      rcases accept_cases accepted with rfl | ⟨edit, rfl, -⟩
      · rw [answer_perform_of_nothing plans] at answers
        cases answers
      · exact absurd plans (spares edit)
  case h_2 => rfl

theorem rebased_perform (held : id < w.sequences.length) :
    Rebased (w.replacement? host id request).toList (w.entries id)
      ((w.perform host request).1.entries id) := by
  by_cases spares : Spares (w.plan host request)
  · rw [replacement?_of_spares spares, entries_perform_of_spares spares held]
    exact .refl _
  · obtain ⟨edit, plans⟩ := not_forall_not.mp spares
    obtain ⟨items, -, -, ordered, within⟩ := offered?_of_splice plans
    rw [replacement?_of_splice plans, entries_perform_of_splice plans held]
    by_cases target : edit.owner = id
    · subst target
      rw [if_pos rfl, if_pos rfl]
      exact Entries.rebased_splice edit.run ordered within
    · rw [if_neg target, if_neg target]
      exact .refl _

end Performing

/-- Over a run of requests of all kinds, an index that is followed through what they replace in a
sequence stays with its entry, two of them stay in order, and the sequence grows by what is written
less what is replaced. -/
theorem rebased_performAll (host : Host) {w : Workspace} {id : SequenceId}
    (held : id < w.sequences.length) (requests : List Request) :
    Rebased (replacements host id w requests) (w.entries id)
      ((w.performAll host requests).entries id) := by
  induction requests generalizing w with
  | nil => exact .refl _
  | cons request rest ih =>
    have later := ih (Nat.lt_of_lt_of_le held (length_sequences_perform w host request))
    exact (rebased_perform held).trans later

/-- Three of the five requests replace something, through a cursor of each kind and without one. Of
the first only one item is written, the third lies outside, and the fourth writes nothing. -/
theorem rebased_performAll_past_gap :
    let host : Host := ⟨fun _ => .ok, fun _ _ => .ok⟩
    let w : Workspace := ⟨[⟨[some "a", none, some "b", some "c"], Lexer.standard⟩],
      [⟨.int 2, 0⟩], [⟨.int 0, .int 1, 0⟩]⟩
    let requests : List Request :=
      [.ofItem 0 (.insertBefore (.list [.text "x", .null, .text ""])),
        .ofRange 0 (.replace (.list [.text "y", .int 7])),
        .ofSequence 0 (.replaceAt (.int 9) (.text "z")),
        .ofSequence 0 (.insertAt (.int 1) (.list [.null])),
        .ofSequence 0 (.replaceRange (.int 3) (.int 5) .null)]
    let after := (w.performAll host requests).entries 0
    0 < w.sequences.length ∧
      replacements host 0 w requests = [⟨2, 2, 1⟩, ⟨0, 1, 2⟩, ⟨3, 5, 0⟩] ∧
      (∃ place : Nat, (2 : Int) = place ∧ after[place]? = some none) ∧
      (∃ place : Nat, (3 : Int) = place ∧ after[place]? = some (some "c")) ∧
      (after.length : Int) = 4 + 1 + 1 - 2 := by
  intro host w requests after
  have held : 0 < w.sequences.length := by decide
  have replaced : replacements host 0 w requests = [⟨2, 2, 1⟩, ⟨0, 1, 2⟩, ⟨3, 5, 0⟩] := by
    decide +kernel
  have rebased := rebased_performAll host held requests
  rw [replaced] at rebased
  exact ⟨held, replaced, rebased.kept 1 2 none rfl (by decide),
    rebased.kept 3 3 (some "c") rfl (by decide), rebased.length.trans (by decide)⟩

end Workspace

end TokenEditor
