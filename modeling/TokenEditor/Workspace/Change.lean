import TokenEditor.Workspace.Basic

/-!
# Changes

An operation is first planned and then carried out. A plan looks at the workspace and ends in a
fault or in one change; only changes touch the workspace, and carrying one out cannot fail. So an
operation that fails has changed no entry and no cursor.
-/

namespace TokenEditor

/-- The entries of a sequence from `start` up to `stop` give way to `run`; `index` is `start` in the
form in which it was given. -/
structure Edit where
  owner : SequenceId
  index : Value
  start : Nat
  stop : Nat
  run : List String

inductive Change where
  | nothing (answer : Value)
  | addSequence (sequence : Sequence)
  | addItem (cursor : ItemCursor)
  | addRange (cursor : RangeCursor)
  | splice (edit : Edit)
  /-- A cursor gets other coordinates, as `next` and assignments do. -/
  | setItem (id : ItemId) (cursor : ItemCursor) (answer : Value)
  | setRange (id : RangeId) (cursor : RangeCursor) (answer : Value)

namespace Edit

/-- The cursor over the tokens that an edit writes. -/
def cursor (edit : Edit) : RangeCursor :=
  ⟨edit.index, .int (edit.start + edit.run.length), edit.owner⟩

def result (edit : Edit) (entries : List Entry) : List Entry :=
  Entries.splice entries edit.start edit.stop edit.run

def event (edit : Edit) (entries : List Entry) : Event :=
  .spliced edit.index (edit.stop - edit.start) edit.run.length (edit.result entries).length

end Edit

structure Outcome where
  workspace : Workspace
  answer : Value
  events : List Event

namespace Workspace

def addItem (w : Workspace) (cursor : ItemCursor) : Workspace :=
  { w with items := w.items ++ [cursor] }

def addRange (w : Workspace) (cursor : RangeCursor) : Workspace :=
  { w with ranges := w.ranges ++ [cursor] }

def addSequence (w : Workspace) (sequence : Sequence) : Workspace :=
  { w with sequences := w.sequences ++ [sequence] }

def carryOut (w : Workspace) : Change → Outcome
  | .nothing answer => ⟨w, answer, []⟩
  | .addSequence sequence => ⟨w.addSequence sequence, .sequence w.sequences.length, []⟩
  | .addItem cursor => ⟨w.addItem cursor, .item w.items.length, []⟩
  | .addRange cursor => ⟨w.addRange cursor, .range w.ranges.length, []⟩
  | .splice edit =>
      let before := w.entries edit.owner
      ⟨(w.setEntries edit.owner (edit.result before)).addRange edit.cursor,
        .range w.ranges.length, [edit.event before]⟩
  | .setItem id cursor answer => ⟨{ w with items := w.items.set id cursor }, answer, []⟩
  | .setRange id cursor answer => ⟨{ w with ranges := w.ranges.set id cursor }, answer, []⟩

end Workspace

end TokenEditor
