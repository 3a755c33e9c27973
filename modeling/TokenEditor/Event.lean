import TokenEditor.Operator.Fusion
import TokenEditor.Value.View

/-!
# Events

What an operation does besides answering: it lexes, it calls the host, and it splices. Events are
kept also when the operation fails later. Fused operators and splices leave a record in words.
-/

namespace TokenEditor

inductive Event where
  /-- A text was lexed; its pieces met in this order. -/
  | lexed (meetings : List Operator.Meeting)
  | transformed (argument : Value)
  | judged (entry index : Value)
  /-- At `index`, as it was given, `removed` entries made room for `inserted` tokens. -/
  | spliced (index : Value) (removed : Int) (inserted length : Nat)

inductive Recorder where
  | lexer
  | sequence
  deriving DecidableEq

structure Record where
  recorder : Recorder
  message : String

def Operator.Meeting.record? (meeting : Operator.Meeting) : Option Record :=
  meeting.joined.map fun joined =>
    let quote := Text.Quoted.encode
    ⟨.lexer, s!"Merged {quote meeting.previous} + {quote meeting.piece} -> {quote joined}"⟩

namespace Event

def records : Event → List Record
  | lexed meetings => meetings.filterMap Operator.Meeting.record?
  | spliced index removed inserted length =>
      let place := index.shown View.empty
      [⟨.sequence, s!"Spliced at {place}: removed {removed}, inserted {inserted} " ++
        s!"(length now {length})"⟩]
  | transformed _ | judged .. => []

def call? : Event → Option Value
  | transformed argument => some argument
  | judged entry index => some (.list [entry, index])
  | lexed _ | spliced .. => none

def isLexing : Event → Bool
  | lexed _ => true
  | _ => false

end Event

end TokenEditor
