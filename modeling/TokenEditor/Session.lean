import TokenEditor.Workspace.Perform

/-!
# Sessions

A session names what its requests answer. Two names may stand for the same cursor or sequence; a
change made through one is then seen through the other. Callers may also note something of a cursor
or a sequence; a note is kept with the thing, whatever it is called, and changes nothing else.
-/

namespace TokenEditor

/-- What a caller has noted of a cursor or a sequence under some name. -/
structure Note where
  subject : Value
  name : String
  value : Value

structure Session where
  workspace : Workspace
  registers : List (String × Value)
  /-- The latest note comes first. -/
  notes : List Note

namespace Session

def empty : Session := ⟨Workspace.empty, [], []⟩

/-- What a name stands for; a name that was never given stands for nothing. -/
def value (session : Session) (name : String) : Value :=
  (session.registers.lookup name).getD .null

def keep (session : Session) (name : String) (value : Value) : Session :=
  { session with registers := (name, value) :: session.registers }

def note (session : Session) (subject : Value) (name : String) (value : Value) : Session :=
  { session with notes := ⟨subject, name, value⟩ :: session.notes }

def noted? (session : Session) (subject : Value) (name : String) : Option Value :=
  (session.notes.find? fun note => note.subject.isOne subject && note.name == name).map Note.value

/-- Performs a request and keeps its answer under a name, if it has one and one is given. -/
def perform (session : Session) (host : Host) (request : Request) (name : Option String) :
    Session × Attempt Value :=
  let (workspace, attempt) := session.workspace.perform host request
  let after := { session with workspace }
  match attempt.answer, name with
  | .ok answer, some name => (after.keep name answer, attempt)
  | _, _ => (after, attempt)

def owner? (session : Session) : Value → Option SequenceId
  | .sequence id => some id
  | .item id => session.workspace.items[id]?.map ItemCursor.owner
  | .range id => session.workspace.ranges[id]?.map RangeCursor.owner
  | _ => none

end Session

end TokenEditor
