import TokenEditor.Entries.Slice
import TokenEditor.Growth
import TokenEditor.Payload
import TokenEditor.Workspace.Change
import TokenEditor.Workspace.Request

/-!
# Requests to a sequence

Three edits are open to callers: a range, a single place, and a point between two places. Each
checks its coordinates first and then what is to be written, and all come to one splice.
-/

namespace TokenEditor.Workspace

def cursorOrNull (cursor : Option RangeCursor) : Change :=
  match cursor with
  | some cursor => .addRange cursor
  | none => .nothing .null

/-- The sequence of the tokens of a text, or of any elements; nothing stays an empty place. -/
def newSequence (w : Workspace) (host : Host) (source : Value) (settings : Settings) :
    Attempt Change := do
  let lexer ← settings.lexer w.view
  match source with
  | .text _ =>
      let tokens ← lexer.tokens host w.view source
      return .addSequence ⟨tokens.map some, lexer.used⟩
  | _ =>
      let items ← source.elements w.view
      let entryOf := fun (item : Value) =>
        match item with
        | .null => none
        | item => some (item.shown w.view)
      return .addSequence ⟨items.map entryOf, lexer⟩

def newItem (owner : SequenceId) (index : Value) : Change := .addItem ⟨index, owner⟩

/-- A range does not end before it starts. -/
def newRange (w : Workspace) (owner : SequenceId) (start stop : Value) : Except Fault Change := do
  if ← stop.isBefore w.view start then
    throw (.reversedRange (start.shown w.view) (stop.shown w.view))
  return .addRange ⟨start, stop, owner⟩

/-- An end of a slice; nothing leaves it open. -/
def sliceEnd : Value → Except Fault (Option Int)
  | .null => .ok none
  | value => some <$> value.whole

/-- The step is looked at before the ends. -/
def sliceOf (start stop step : Value) : Except Fault Slice := do
  let step := (← sliceEnd step).getD 1
  if step = 0 then throw .zeroStep
  return ⟨← sliceEnd start, ← sliceEnd stop, step⟩

def window (w : Workspace) (owner : SequenceId) (start stop : Value) :
    Except Fault (List Entry) := do
  return (← sliceOf start stop .null).of (w.entries owner)

/-- What is looked for; where case does not count, it has to be something with a small form. -/
def soughtOf (wanted : Value) (caseSensitive : Bool) : Except Fault Value :=
  if caseSensitive then .ok wanted
  else
    match wanted with
    | .text s => .ok (.text (Text.Case.lower s))
    | .bytes octets => .ok (.bytes octets)
    | _ => .error .noSuchMember

/-- The first place to look at; places before the first one are moved there. -/
def searchStart (start : Value) : Except Fault Nat := do
  if (← start.number).isLess (.whole 0) then return 0
  return (← start.whole).toNat

def find (w : Workspace) (owner : SequenceId) (wanted caseSensitive start : Value) :
    Except Fault Change := do
  let exact := caseSensitive.isTrue w.view
  let sought ← soughtOf wanted exact
  let start ← searchStart start
  let fold := if exact then id else Text.Case.lower
  match sought with
  | .text spelling =>
      match Entries.find? fold spelling (w.entries owner) start with
      | some place => return .addItem ⟨.int place, owner⟩
      | none => return .nothing .null
  | _ => return .nothing .null

def edge (w : Workspace) (owner : SequenceId) (which : Edge) : Except Fault Change :=
  match (w.entries owner).length with
  | 0 => .error (.emptySequence which)
  | last + 1 =>
      match which with
      | .first => .ok (.addItem ⟨.int 0, owner⟩)
      | .last => .ok (.addItem ⟨.int last, owner⟩)

/-- The run that grows from `start`, whose own place is the anchor. -/
def run (w : Workspace) (host : Host) (owner : SequenceId) (start step criterion : Value) :
    Attempt (Option RangeCursor) := do
  let found ← Growth.select host w.view (w.entries owner) start step criterion start
  return found.map fun (start, stop) => ⟨start, stop, owner⟩

/-- The bounds of a splice stand in order among the places of the sequence. -/
def checkBounds (w : Workspace) (owner : SequenceId) (start stop : Value) : Except Fault Unit := do
  let length := (w.entries owner).length
  let outside := Fault.spliceOutside (start.shown w.view) (stop.shown w.view) length
  let first ← start.number
  unless (Number.whole 0).isAtMost first do throw outside
  let last ← stop.number
  unless first.isAtMost last && last.isAtMost (.whole length) do throw outside

/-- The splice between two bounds, which must be whole. -/
def spliceAt (owner : SequenceId) (start stop : Value) (run : List String) :
    Except Fault Change := do
  return .splice ⟨owner, start, (← start.whole).toNat, (← stop.whole).toNat, run⟩

def replaceRange (w : Workspace) (owner : SequenceId) (start stop run : Value) :
    Except Fault Change := do
  w.checkBounds owner start stop
  let written ← Payload.written w.view run
  spliceAt owner start stop written

def replaceAt (w : Workspace) (owner : SequenceId) (index run : Value) : Except Fault Change := do
  let length := (w.entries owner).length
  match ← index.place? length with
  | none => throw (.replacementOutside (index.shown w.view) length)
  | some place =>
      let written ← Payload.written w.view run
      return .splice ⟨owner, index, place, place + 1, written⟩

/-- Where nothing is to be written, nothing happens. -/
def insertAt (w : Workspace) (owner : SequenceId) (index run : Value) : Except Fault Change := do
  w.checkBounds owner index index
  let written ← Payload.written w.view run
  if written.isEmpty then return .nothing .null
  spliceAt owner index index written

def entryAt (w : Workspace) (owner : SequenceId) (index : Value) : Except Fault Value := do
  let entries := w.entries owner
  match Slice.place? entries.length (← index.whole) with
  | some place => return .ofEntry (entries[place]?.getD none)
  | none => throw .indexOutside

def lex (w : Workspace) (host : Host) (owner : SequenceId) (text : Value) : Attempt Value := do
  return .list ((← (w.lexer owner).tokens host w.view text).map .text)

def planSequence (w : Workspace) (host : Host) (owner : SequenceId) :
    SequenceRequest → Attempt Change
  | .length => pure (.nothing (.int (w.entries owner).length))
  | .entries => pure (.nothing (.ofEntries (w.entries owner)))
  | .entry index => do return .nothing (← w.entryAt owner index)
  | .slice start stop step => do
      return .nothing (.ofEntries ((← sliceOf start stop step).of (w.entries owner)))
  | .render => pure (.nothing (.text (Entries.render (w.entries owner))))
  | .lex text => do return .nothing (← w.lex host owner text)
  | .find wanted caseSensitive start => w.find owner wanted caseSensitive start
  | .first => w.edge owner .first
  | .last => w.edge owner .last
  | .select start step criterion => do
      return cursorOrNull (← w.run host owner start step criterion)
  | .replaceRange start stop run => w.replaceRange owner start stop run
  | .replaceAt index run => w.replaceAt owner index run
  | .insertAt index run => w.insertAt owner index run

end TokenEditor.Workspace
