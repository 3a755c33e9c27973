import TokenEditor.Attempt

/-!
# The host

Callables belong to the host of the library. They answer or give up. What they are given is a copy,
so that nothing they do to it is seen elsewhere; every call is an event.
-/

namespace TokenEditor

structure Host where
  transform : CallableId → Value → Except Fault Value
  judge : CallableId → Value → Value → Except Fault Value

namespace Host

/-- Calls `callable` with one argument; what takes two cannot be called so. -/
def call (host : Host) (callable argument : Value) : Attempt Value :=
  match callable with
  | .function id => ⟨host.transform id argument, [.transformed argument]⟩
  | _ => .fail .wrongKind

/-- Asks `callable` about an entry and its place; what takes one argument cannot be asked. -/
def ask (host : Host) (callable entry index : Value) : Attempt Value :=
  match callable with
  | .predicate id => ⟨host.judge id entry index, [.judged entry index]⟩
  | _ => .fail .wrongKind

end Host

end TokenEditor
