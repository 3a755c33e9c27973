import TokenEditor.Workspace.OnCursor

/-!
# Performing requests

A request is planned against the workspace as it is, and its change is then carried out. What stays
behind when the plan fails are its events, and a lexer that has been used.
-/

namespace TokenEditor.Workspace

/-- The sequence that a request is about, whose lexer it may use. -/
def subject? (w : Workspace) : Request → Option SequenceId
  | .ofSequence id _ => some id
  | .ofItem id _ => w.items[id]?.map ItemCursor.owner
  | .ofRange id _ => w.ranges[id]?.map RangeCursor.owner
  | _ => none

/-- The change that a request comes to; what the workspace does not hold cannot be asked. -/
def plan (w : Workspace) (host : Host) : Request → Attempt Change
  | .newSequence source settings => w.newSequence host source settings
  | .newItem owner index => pure (newItem owner index)
  | .newRange owner start stop => w.newRange owner start stop
  | .ofSequence id request => w.planSequence host id request
  | .ofItem id request =>
      match w.items[id]? with
      | some cursor => w.planItem host id cursor request
      | none => .fail .noSuchMember
  | .ofRange id request =>
      match w.ranges[id]? with
      | some cursor => w.planRange host id cursor request
      | none => .fail .noSuchMember
  | .compare a b =>
      let same := a.isSame w.view b
      pure (.nothing (.list [.bool same, .bool !same]))
  | .display value => pure (.nothing (.text (value.shown w.view)))
  | .quote value => pure (.nothing (.text (value.quoted w.view)))

/-- The workspace after the events of a plan: if there was lexing, the lexer has been used. -/
def afterEvents (w : Workspace) (subject : Option SequenceId) (events : List Event) : Workspace :=
  match subject with
  | some id => if events.any Event.isLexing then w.useLexer id else w
  | none => w

/-- The workspace after a request, and what the request came to. -/
def perform (w : Workspace) (host : Host) (request : Request) : Workspace × Attempt Value :=
  let planned := w.plan host request
  let ready := w.afterEvents (w.subject? request) planned.events
  match planned.answer with
  | .error fault => (ready, ⟨.error fault, planned.events⟩)
  | .ok change =>
      let outcome := ready.carryOut change
      (outcome.workspace, ⟨.ok outcome.answer, planned.events ++ outcome.events⟩)

end TokenEditor.Workspace
