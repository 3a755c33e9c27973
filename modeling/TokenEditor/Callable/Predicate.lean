import TokenEditor.Value.Order
import TokenEditor.Value.View

/-!
# Ready-made predicates

Functions of an entry and its place that a host can offer. Their answers need not be truth values.
An entry and its place are no cursors, so they are compared without a workspace.
-/

namespace TokenEditor.Callable

inductive Predicate where
  | always
  | never
  | among (entries : List Value)
  | notAmong (entries : List Value)
  | below (bound : Value)
  /-- At a bound or after it. Where the bound is no number, neither this nor `below` holds. -/
  | notBelow (bound : Value)
  | digits
  | present
  | entry
  | index
  | value (value : Value)
  /-- Gives up at one place and holds everywhere else. -/
  | givesUpAt (place : Value)
  deriving Inhabited

namespace Predicate

def isDigits : Value → Bool
  | .text s => s != "" && s.toList.all Char.isDigit
  | _ => false

def apply (entry place : Value) : Predicate → Except Fault Value
  | always => .ok (.bool true)
  | never => .ok (.bool false)
  | among entries => .ok (.bool (entries.any (entry.isSameMember View.empty)))
  | notAmong entries => .ok (.bool (!entries.any (entry.isSameMember View.empty)))
  | below bound => do return .bool ((← place.number).isLess (← bound.number))
  | notBelow bound => do return .bool ((← bound.number).isAtMost (← place.number))
  | digits => .ok (.bool (isDigits entry))
  | present => .ok (.bool (!entry.isSame View.empty .null))
  | .entry => .ok entry
  | index => .ok place
  | value v => .ok v
  | givesUpAt bad =>
      if place.isSame View.empty bad then .error (.callback "boom") else .ok (.bool true)

end Predicate

end TokenEditor.Callable
