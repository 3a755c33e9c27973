import TokenEditor.Workspace.OnSequence

/-!
# Requests to a cursor

A cursor reads, searches and edits through its sequence. What it writes may be lexed, or computed
from the tokens that stand there; that is settled before its coordinates are checked.
-/

namespace TokenEditor.Workspace

def token (w : Workspace) (cursor : ItemCursor) : Except Fault Entry := do
  let entries := w.entries cursor.owner
  match ← cursor.index.place? entries.length with
  | some place => return entries[place]?.getD none
  | none => throw (.cursorOutside (cursor.index.shown w.view) entries.length)

def peek (w : Workspace) (cursor : ItemCursor) (count : Value) : Except Fault Value := do
  let stop ← cursor.index.sum count
  return .text (Entries.preview (← w.window cursor.owner cursor.index stop))

/-- The tokens that a payload comes to at a cursor over `current`. -/
def resolve (w : Workspace) (host : Host) (owner : SequenceId) (current : Except Fault Value)
    (payload : Value) : Attempt Value := do
  let lexer := w.lexer owner
  let payload ← Payload.ofValue host lexer w.view payload
  return .list (← payload.tokens host lexer w.view current)

def replaceItem (w : Workspace) (host : Host) (cursor : ItemCursor) (payload : Value) :
    Attempt Change := do
  let tokens ← w.resolve host cursor.owner (Value.ofEntry <$> w.token cursor) payload
  w.replaceAt cursor.owner cursor.index tokens

/-- The tokens to insert; there has to be at least one item, even if it comes to nothing. -/
def insertion (w : Workspace) (host : Host) (owner : SequenceId) (run : Value) :
    Attempt Value := do
  let items ← match run with
    | .null => pure []
    | .text _ => do
        let tokens ← (w.lexer owner).tokens host w.view run
        pure (tokens.map Value.text)
    | _ => Attempt.ofExcept (run.elements w.view)
  if items.isEmpty then Attempt.fail .nothingToInsert else pure (.list items)

/-- Inserts `distance` places after the cursor. -/
def insertFrom (w : Workspace) (host : Host) (cursor : ItemCursor) (distance : Int)
    (run : Value) : Attempt Change := do
  let index ← if distance = 0 then pure cursor.index else cursor.index.shift distance
  let items ← w.insertion host cursor.owner run
  w.insertAt cursor.owner index items

def selectFrom (w : Workspace) (host : Host) (cursor : ItemCursor) (distance step : Int)
    (criterion : Value) : Attempt Change := do
  let index ← if distance = 0 then pure cursor.index else cursor.index.shift distance
  return cursorOrNull (← w.run host cursor.owner index (.int step) criterion)

def planItem (w : Workspace) (host : Host) (id : ItemId) (cursor : ItemCursor) :
    ItemRequest → Attempt Change
  | .index => pure (.nothing cursor.index)
  | .owner => pure (.nothing (.sequence cursor.owner))
  | .setIndex index => pure (.setItem id { cursor with index } .null)
  | .setOwner owner => pure (.setItem id { cursor with owner } .null)
  | .token => do return .nothing (.ofEntry (← w.token cursor))
  | .peek count => do return .nothing (← w.peek cursor count)
  | .next .null _ => do
      return .setItem id { cursor with index := ← cursor.index.shift 1 } (.item id)
  | .next wanted caseSensitive => do
      w.find cursor.owner wanted caseSensitive (← cursor.index.shift 1)
  | .replace payload => w.replaceItem host cursor payload
  | .insertBefore run => w.insertFrom host cursor 0 run
  | .insertAfter run => w.insertFrom host cursor 1 run
  | .select criterion => w.selectFrom host cursor 0 1 criterion
  | .selectPrevious criterion => w.selectFrom host cursor (-1) (-1) criterion
  | .selectNext criterion => w.selectFrom host cursor 1 1 criterion

def replaceRun (w : Workspace) (host : Host) (cursor : RangeCursor) (payload : Value) :
    Attempt Change := do
  let current := Value.ofEntries <$> w.window cursor.owner cursor.start cursor.stop
  let tokens ← w.resolve host cursor.owner current payload
  w.replaceRange cursor.owner cursor.start cursor.stop tokens

/-- Grows backward from the first entry of the range, which keeps its end. -/
def extendLeft (w : Workspace) (host : Host) (cursor : RangeCursor) (criterion : Value) :
    Attempt Change := do
  let found ← w.run host cursor.owner cursor.start (.int (-1)) criterion
  return cursorOrNull (found.map fun run => { run with stop := cursor.stop })

/-- Grows forward from the entry after the range, which keeps its start. -/
def extendRight (w : Workspace) (host : Host) (cursor : RangeCursor) (criterion : Value) :
    Attempt Change := do
  let found ← w.run host cursor.owner cursor.stop (.int 1) criterion
  return cursorOrNull (found.map fun run => { run with start := cursor.start })

def planRange (w : Workspace) (host : Host) (id : RangeId) (cursor : RangeCursor) :
    RangeRequest → Attempt Change
  | .start => pure (.nothing cursor.start)
  | .stop => pure (.nothing cursor.stop)
  | .owner => pure (.nothing (.sequence cursor.owner))
  | .length => do return .nothing (← cursor.stop.difference cursor.start)
  | .setStart start => pure (.setRange id { cursor with start } .null)
  | .setStop stop => pure (.setRange id { cursor with stop } .null)
  | .setOwner owner => pure (.setRange id { cursor with owner } .null)
  | .entries => do
      return .nothing (.ofEntries (← w.window cursor.owner cursor.start cursor.stop))
  | .first => pure (newItem cursor.owner cursor.start)
  | .last => pure (newItem cursor.owner cursor.stop)
  | .extendLeft criterion => w.extendLeft host cursor criterion
  | .extendRight criterion => w.extendRight host cursor criterion
  | .replace payload => w.replaceRun host cursor payload

end TokenEditor.Workspace
