import TokenEditor.Proofs.Workspace.Offer
import TokenEditor.Proofs.Workspace.Splicing

/-!
# Courses of action

What happens to a workspace while an operation goes on, one thing after another. A course can fail
at any of its steps, and what it has changed by then stays changed. Here every request is a course
that writes as soon as it knows what to write, also where something is left to check after that: a
cursor over what was written is made after the writing, and making one has a check of its own.
-/

namespace TokenEditor

def Course (α : Type) : Type := Workspace → Workspace × Attempt α

namespace Course

variable {α β : Type}

protected def pure (a : α) : Course α := fun w => (w, pure a)

protected def bind (course : Course α) (next : α → Course β) : Course β := fun w =>
  match (course w).2.answer with
  | .ok a =>
      let rest := next a (course w).1
      (rest.1, ⟨rest.2.answer, (course w).2.events ++ rest.2.events⟩)
  | .error fault => ((course w).1, ⟨.error fault, (course w).2.events⟩)

instance : Monad Course where
  pure := Course.pure
  bind := Course.bind

instance : MonadLift Attempt Course := ⟨fun attempt w => (w, attempt)⟩

def here : Course Workspace := fun w => (w, pure w)

def change (f : Workspace → Workspace) : Course Unit := fun w => (f w, pure ())

/-- Something for which the lexer of a sequence is at hand; if it lexes, the lexer has been used. -/
def lexing (subject : Option SequenceId) (f : Workspace → Attempt α) : Course α := fun w =>
  (w.afterEvents subject (f w).events, f w)

def looking (subject : Option SequenceId) (f : Workspace → Attempt Change) : Course Value := do
  let change ← lexing subject f
  fun w => w.settle change

/-- Making a cursor over a range fails where the range ends before it starts. -/
def makeRange (owner : SequenceId) (start stop : Value) : Course Value := do
  let w ← here
  if ← stop.isBefore w.view start then
    Attempt.fail (.reversedRange (start.shown w.view) (stop.shown w.view))
  else
    change (·.addRange ⟨start, stop, owner⟩)
    return .range w.ranges.length

/-- Writes first, and makes the cursor over what was written afterwards. -/
def splice (owner : SequenceId) (start stop : Value) (run : List String) : Course Value := do
  let w ← here
  let edit : Edit := ⟨owner, start, (← start.whole).toNat, (← stop.whole).toNat, run⟩
  change (·.setEntries owner (edit.result (w.entries owner)))
  Attempt.note (edit.event (w.entries owner))
  makeRange owner start (← start.shift run.length)

def replaceRange (owner : SequenceId) (start stop run : Value) : Course Value := do
  let w ← here
  w.checkBounds owner start stop
  splice owner start stop (← Payload.written w.view run)

def replaceAt (owner : SequenceId) (index run : Value) : Course Value := do
  let w ← here
  let length := (w.entries owner).length
  match ← index.place? length with
  | none => Attempt.fail (.replacementOutside (index.shown w.view) length)
  | some _ => do
      let written ← Payload.written w.view run
      splice owner index (← index.shift 1) written

def insertAt (owner : SequenceId) (index run : Value) : Course Value := do
  let w ← here
  w.checkBounds owner index index
  let written ← Payload.written w.view run
  if written.isEmpty then return .null else splice owner index index written

def select (host : Host) (owner : SequenceId) (start step criterion : Value) : Course Value := do
  let w ← here
  match ← Growth.select host w.view (w.entries owner) start step criterion start with
  | none => return .null
  | some (first, last) => makeRange owner first last

/-- The tokens that a payload comes to, which may take the lexer twice in a row. -/
def resolve (host : Host) (owner : SequenceId) (current : Workspace → Except Fault Value)
    (payload : Value) : Course Value := do
  let payload ← lexing owner fun w => Payload.ofValue host (w.lexer owner) w.view payload
  let tokens ← lexing owner fun w => payload.tokens host (w.lexer owner) w.view (current w)
  return .list tokens

def replaceItem (host : Host) (cursor : ItemCursor) (payload : Value) : Course Value := do
  let current := fun (w : Workspace) => Value.ofEntry <$> w.token cursor
  replaceAt cursor.owner cursor.index (← resolve host cursor.owner current payload)

def insertFrom (host : Host) (cursor : ItemCursor) (distance : Int) (run : Value) :
    Course Value := do
  let index ← cursor.away distance
  let items ← lexing cursor.owner fun w => w.insertion host cursor.owner run
  insertAt cursor.owner index items

def selectFrom (host : Host) (cursor : ItemCursor) (distance step : Int) (criterion : Value) :
    Course Value := do
  let index ← cursor.away distance
  select host cursor.owner index (.int step) criterion

/-- A cursor without a wanted token moves on; it does so only once its next place is known. -/
def advance (id : ItemId) (cursor : ItemCursor) : Course Value := do
  let index ← cursor.index.shift 1
  change fun w => { w with items := w.items.set id { cursor with index } }
  return .item id

def replaceRun (host : Host) (cursor : RangeCursor) (payload : Value) : Course Value := do
  let current := fun (w : Workspace) =>
    Value.ofEntries <$> w.window cursor.owner cursor.start cursor.stop
  replaceRange cursor.owner cursor.start cursor.stop (← resolve host cursor.owner current payload)

/-- Another end is given to a range that has just been selected, if one has. -/
def reshape (selected : Value) (f : RangeCursor → RangeCursor) : Course Value := do
  match selected with
  | .range id =>
      change fun w => { w with ranges := w.ranges.modify id f }
      return .range id
  | answer => return answer

def extendLeft (host : Host) (cursor : RangeCursor) (criterion : Value) : Course Value := do
  let selected ← select host cursor.owner cursor.start (.int (-1)) criterion
  reshape selected fun run => { run with stop := cursor.stop }

def extendRight (host : Host) (cursor : RangeCursor) (criterion : Value) : Course Value := do
  let selected ← select host cursor.owner cursor.stop (.int 1) criterion
  reshape selected fun run => { run with start := cursor.start }

def ofSequence (host : Host) (owner : SequenceId) : SequenceRequest → Course Value
  | .select start step criterion => select host owner start step criterion
  | .replaceRange start stop run => replaceRange owner start stop run
  | .replaceAt index run => replaceAt owner index run
  | .insertAt index run => insertAt owner index run
  | request => looking owner fun w => w.planSequence host owner request

def ofItem (host : Host) (id : ItemId) (cursor : ItemCursor) : ItemRequest → Course Value
  | .next .null _ => advance id cursor
  | .replace payload => replaceItem host cursor payload
  | .insertBefore run => insertFrom host cursor 0 run
  | .insertAfter run => insertFrom host cursor 1 run
  | .select criterion => selectFrom host cursor 0 1 criterion
  | .selectPrevious criterion => selectFrom host cursor (-1) (-1) criterion
  | .selectNext criterion => selectFrom host cursor 1 1 criterion
  | request => looking cursor.owner fun w => w.planItem host id cursor request

def ofRange (host : Host) (id : RangeId) (cursor : RangeCursor) : RangeRequest → Course Value
  | .extendLeft criterion => extendLeft host cursor criterion
  | .extendRight criterion => extendRight host cursor criterion
  | .replace payload => replaceRun host cursor payload
  | request => looking cursor.owner fun w => w.planRange host id cursor request

/-- The course of a request; cursors that are not there cannot be asked. -/
def ofRequest (host : Host) : Request → Course Value
  | .newRange owner start stop => makeRange owner start stop
  | .ofSequence owner request => ofSequence host owner request
  | .ofItem id request => do
      match (← here).items[id]? with
      | some cursor => ofItem host id cursor request
      | none => Attempt.fail .noSuchMember
  | .ofRange id request => do
      match (← here).ranges[id]? with
      | some cursor => ofRange host id cursor request
      | none => Attempt.fail .noSuchMember
  | request => looking none fun w => w.plan host request

end Course

end TokenEditor
