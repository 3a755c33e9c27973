import TokenEditor.Workspace.Perform

/-!
# Workspaces with the same content

While a request is planned, a lexer may be used, and that may change it. All that is looked at to
carry out an edit stays the same.
-/

namespace TokenEditor

namespace Workspace

/-- Two workspaces hold the same entries and the same cursors; their lexers may differ. -/
structure SameContent (before after : Workspace) : Prop where
  sequences : after.sequences.length = before.sequences.length
  entries : after.entries = before.entries
  items : after.items = before.items
  ranges : after.ranges = before.ranges

theorem SameContent.viewWithin {before after : Workspace} (same : SameContent before after)
    (depth : Nat) : after.viewWithin depth = before.viewWithin depth := by
  induction depth with
  | zero => rw [Workspace.viewWithin, Workspace.viewWithin, same.entries]
  | succ depth ih =>
    unfold Workspace.viewWithin itemText rangeText itemsAgree rangesAgree
    rw [ih, same.entries, same.items, same.ranges]

theorem SameContent.view {before after : Workspace} (same : SameContent before after) :
    after.view = before.view := by
  rw [Workspace.view, Workspace.view, same.items, same.ranges]
  exact same.viewWithin _

theorem sameContent_useLexer (w : Workspace) (id : SequenceId) : SameContent w (w.useLexer id) where
  sequences := List.length_modify ..
  entries := funext (w.entries_useLexer id)
  items := rfl
  ranges := rfl

theorem sameContent_afterEvents (w : Workspace) (subject : Option SequenceId)
    (events : List Event) : SameContent w (w.afterEvents subject events) := by
  unfold afterEvents
  split
  · split
    · exact sameContent_useLexer w _
    · exact ⟨rfl, rfl, rfl, rfl⟩
  · exact ⟨rfl, rfl, rfl, rfl⟩

theorem afterEvents_of_unlexed (w : Workspace) (subject : Option SequenceId) {events : List Event}
    (unlexed : events.any Event.isLexing = false) : w.afterEvents subject events = w := by
  cases subject with
  | none => rfl
  | some id =>
    rw [afterEvents, unlexed]
    rfl

theorem afterEvents_nil (w : Workspace) (subject : Option SequenceId) :
    w.afterEvents subject [] = w :=
  w.afterEvents_of_unlexed subject rfl

namespace SameContent

variable {before after : Workspace}

theorem replaceAt (same : SameContent before after) (owner : SequenceId) (index run : Value) :
    after.replaceAt owner index run = before.replaceAt owner index run := by
  rw [Workspace.replaceAt, Workspace.replaceAt, same.entries, same.view]

theorem checkBounds (same : SameContent before after) (owner : SequenceId) (start stop : Value) :
    after.checkBounds owner start stop = before.checkBounds owner start stop := by
  rw [Workspace.checkBounds, Workspace.checkBounds, same.entries, same.view]

theorem replaceRange (same : SameContent before after) (owner : SequenceId)
    (start stop run : Value) :
    after.replaceRange owner start stop run = before.replaceRange owner start stop run := by
  rw [Workspace.replaceRange, Workspace.replaceRange, same.checkBounds, same.view]

theorem insertAt (same : SameContent before after) (owner : SequenceId) (index run : Value) :
    after.insertAt owner index run = before.insertAt owner index run := by
  rw [Workspace.insertAt, Workspace.insertAt, same.checkBounds, same.view]

end SameContent

end Workspace

end TokenEditor
