import TokenEditor.Host
import TokenEditor.Value.Order

/-!
# Growing a run

From a place in a list of entries, a run grows in one direction for as long as a criterion admits
what it meets. This is no search: the first entry that is not admitted ends the run, and none after
it is looked at.
-/

namespace TokenEditor

inductive Criterion where
  /-- The place that equals `index`, whatever stands there. -/
  | anchored (index : Value)
  | spelled (token : String)
  /-- What a callable answers, by its truth. -/
  | asking (callable : Value)

namespace Criterion

/-- The criterion that a value stands for; nothing stands for the anchor alone. -/
def ofValue (view : View) (anchor : Value) : Value → Except Fault Criterion
  | .null => .ok (anchored anchor)
  | .text token => .ok (spelled token)
  | value =>
      if value.isCallable then .ok (asking value)
      else .error (.unsupportedPredicate (value.quoted view))

def admits (host : Host) (view : View) (entry : Entry) (index : Value) :
    Criterion → Attempt Bool
  | anchored anchor => pure (index.isSame view anchor)
  | spelled token => pure (entry == some token)
  | asking callable => do return (← host.ask callable (.ofEntry entry) index).isTrue view

end Criterion

/-- The direction and the kind of the steps in which a run grows. -/
structure Stride where
  forward : Bool
  /-- A step by a double leaves the places that can be looked up. -/
  whole : Bool

namespace Stride

def ofValue (view : View) (step : Value) : Except Fault Stride :=
  if step.isSame view (.int 1) then .ok ⟨true, step.whole?.isSome⟩
  else if step.isSame view (.int (-1)) then .ok ⟨false, step.whole?.isSome⟩
  else .error (.unsupportedStep (step.shown view))

/-- The entries from `start` on with their places, in the order in which they are met. -/
def met (stride : Stride) (entries : List Entry) (start : Nat) : List (Entry × Nat) :=
  if stride.forward then (entries.drop start).zipIdx start
  else (entries.take (start + 1)).zipIdx.reverse

end Stride

namespace Growth

/-- How many of the first things are admitted before one is not. -/
def admitted {α : Type} (ask : α → Attempt Bool) : List α → Attempt Nat
  | [] => pure 0
  | a :: rest => do if ← ask a then return (← admitted ask rest) + 1 else return 0

/-- The ends of a run of `count` entries grown from `start`, which keeps its form as given. -/
def ends (stride : Stride) (start : Value) (place count : Nat) : Value × Value :=
  if stride.forward then (start, .int (place + count))
  else (if count = 1 then start else .int (place + 1 - count), .int (place + 1))

/-- The run that grows from `start`, or nothing if there is no entry or it is not admitted. -/
def grow (host : Host) (view : View) (criterion : Criterion) (stride : Stride)
    (entries : List Entry) (start : Value) : Attempt (Option (Value × Value)) := do
  match ← start.place? entries.length with
  | none => return none
  | some place =>
      let ask := fun (met : Entry × Nat) =>
        if met.2 = place then criterion.admits host view met.1 start
        else if stride.whole then criterion.admits host view met.1 (.int met.2)
        else .fail .wrongKind
      let count ← admitted ask (stride.met entries place)
      return if count = 0 then none else some (ends stride start place count)

/-- As `grow`, from what a caller gives for the criterion and the step. -/
def select (host : Host) (view : View) (entries : List Entry)
    (start step criterion anchor : Value) : Attempt (Option (Value × Value)) := do
  let criterion ← Criterion.ofValue view anchor criterion
  let stride ← Stride.ofValue view step
  grow host view criterion stride entries start

end Growth

end TokenEditor
