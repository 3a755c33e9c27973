import TokenEditor.Lexer.Settings

/-!
# Workspaces

A workspace holds sequences, and cursors that point into them. A cursor is coordinates and the name
of its sequence, no more: an edit moves no cursor, so that one made before may point elsewhere
after.
-/

namespace TokenEditor

structure Sequence where
  entries : List Entry
  lexer : Lexer

structure ItemCursor where
  index : Value
  owner : SequenceId

structure RangeCursor where
  start : Value
  stop : Value
  owner : SequenceId

structure Workspace where
  sequences : List Sequence
  items : List ItemCursor
  ranges : List RangeCursor

namespace Workspace

def empty : Workspace := ⟨[], [], []⟩

def entries (w : Workspace) (id : SequenceId) : List Entry :=
  match w.sequences[id]? with
  | some sequence => sequence.entries
  | none => []

def lexer (w : Workspace) (id : SequenceId) : Lexer :=
  match w.sequences[id]? with
  | some sequence => sequence.lexer
  | none => Lexer.standard

def itemText (w : Workspace) (inner : View) (id : ItemId) : String :=
  match w.items[id]? with
  | some cursor => s!"ItemCursor(index={cursor.index.shown inner})"
  | none => ""

def rangeText (w : Workspace) (inner : View) (id : RangeId) : String :=
  match w.ranges[id]? with
  | some cursor =>
      s!"RangeCursor(start={cursor.start.shown inner}, end={cursor.stop.shown inner})"
  | none => ""

/-- Cursors are the same when they have the same coordinates in the same sequence. -/
def itemsAgree (w : Workspace) (inner : View) (i j : ItemId) : Bool :=
  match w.items[i]?, w.items[j]? with
  | some a, some b => a.index.isSame inner b.index && a.owner == b.owner
  | _, _ => false

@[inherit_doc itemsAgree]
def rangesAgree (w : Workspace) (inner : View) (i j : RangeId) : Bool :=
  match w.ranges[i]?, w.ranges[j]? with
  | some a, some b =>
      a.start.isSame inner b.start && a.stop.isSame inner b.stop && a.owner == b.owner
  | _, _ => false

/-- The view in which a coordinate that is itself a cursor is looked into, down to some depth. -/
def viewWithin (w : Workspace) : Nat → View
  | 0 => View.ofEntries w.entries
  | depth + 1 =>
      let inner := w.viewWithin depth
      { entries := w.entries
        itemText := w.itemText inner
        rangeText := w.rangeText inner
        itemsAgree := w.itemsAgree inner
        rangesAgree := w.rangesAgree inner }

/-- Coordinates nest no deeper than there are cursors, as none lies within itself. -/
def view (w : Workspace) : View := w.viewWithin (w.items.length + w.ranges.length)

@[simp] theorem entries_viewWithin (w : Workspace) (depth : Nat) :
    (w.viewWithin depth).entries = w.entries := by
  cases depth <;> rfl

@[simp] theorem entries_view (w : Workspace) : w.view.entries = w.entries :=
  w.entries_viewWithin _

def setEntries (w : Workspace) (id : SequenceId) (entries : List Entry) : Workspace :=
  { w with sequences := w.sequences.modify id fun sequence => { sequence with entries } }

/-- The workspace in which the lexer of the sequence `id` has been used. -/
def useLexer (w : Workspace) (id : SequenceId) : Workspace :=
  { w with
    sequences := w.sequences.modify id fun sequence =>
      { sequence with lexer := sequence.lexer.used } }

@[simp] theorem items_setEntries (w : Workspace) (id : SequenceId) (entries : List Entry) :
    (w.setEntries id entries).items = w.items := rfl

@[simp] theorem ranges_setEntries (w : Workspace) (id : SequenceId) (entries : List Entry) :
    (w.setEntries id entries).ranges = w.ranges := rfl

theorem entries_setEntries (w : Workspace) (id other : SequenceId) (entries : List Entry) :
    (w.setEntries id entries).entries other =
      if id = other ∧ other < w.sequences.length then entries else w.entries other := by
  simp only [Workspace.entries, setEntries, List.getElem?_modify]
  cases found : w.sequences[other]? with
  | none =>
    have beyond : ¬ other < w.sequences.length :=
      Nat.not_lt.mpr (List.getElem?_eq_none_iff.mp found)
    simp [beyond]
  | some sequence =>
    have within := (List.getElem?_eq_some_iff.mp found).1
    by_cases same : id = other <;> simp [same, within]

@[simp] theorem items_useLexer (w : Workspace) (id : SequenceId) :
    (w.useLexer id).items = w.items := rfl

@[simp] theorem ranges_useLexer (w : Workspace) (id : SequenceId) :
    (w.useLexer id).ranges = w.ranges := rfl

@[simp] theorem entries_useLexer (w : Workspace) (id other : SequenceId) :
    (w.useLexer id).entries other = w.entries other := by
  simp only [Workspace.entries, useLexer, List.getElem?_modify]
  cases w.sequences[other]? with
  | none => rfl
  | some sequence => by_cases same : id = other <;> simp [same]

end Workspace

end TokenEditor
