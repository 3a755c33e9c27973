/-!
# Faults

Why an operation could not be carried out. A fault is its cause; the wording of those that have one
is given by `Fault.message`.
-/

namespace TokenEditor

inductive Edge where
  | first
  | last

def Edge.name : Edge → String
  | first => "first"
  | last => "last"

inductive Fault where
  /-- A single text was given where operator spellings were expected. -/
  | operatorsAsText (shown : String)
  | lexerNotCallable (shown : String)
  | unsupportedPayload (kindName : String)
  | nothingToInsert
  | reversedRange (start stop : String)
  | unsupportedPredicate (shown : String)
  | unsupportedStep (shown : String)
  | emptySequence (edge : Edge)
  | cursorOutside (index : String) (length : Nat)
  | replacementOutside (index : String) (length : Nat)
  | spliceOutside (start stop : String) (length : Nat)
  /-- A callable of the host gave up. -/
  | callback (message : String)
  /-- A value is of a kind that the operation cannot act on. -/
  | wrongKind
  /-- A value does not have what is asked of it. -/
  | noSuchMember
  | indexOutside
  /-- A slice was to take steps of no length. -/
  | zeroStep
  /-- A whole number beyond all doubles was to be added to one. -/
  | tooLarge

namespace Fault

inductive Kind where
  | invalidArgument
  | emptySequence
  | staleCursor
  | callback
  | wrongKind
  | noSuchMember
  | indexOutside
  | wrongValue
  | tooLarge
  deriving DecidableEq

def kind : Fault → Kind
  | operatorsAsText _ | lexerNotCallable _ | unsupportedPayload _ | nothingToInsert
  | reversedRange .. | unsupportedPredicate _ | unsupportedStep _ => .invalidArgument
  | emptySequence _ => .emptySequence
  | cursorOutside .. | replacementOutside .. | spliceOutside .. => .staleCursor
  | callback _ => .callback
  | wrongKind => .wrongKind
  | noSuchMember => .noSuchMember
  | indexOutside => .indexOutside
  | zeroStep => .wrongValue
  | tooLarge => .tooLarge

/-- The wording of a fault; those of the last five kinds have none of their own. -/
def message : Fault → Option String
  | operatorsAsText shown =>
      some s!"operators must be a collection of spellings, not a string: {shown}"
  | lexerNotCallable shown => some s!"primitive_lexer must be callable: {shown}"
  | unsupportedPayload kindName =>
      some s!"Replacement must be a string or a token list, got {kindName}"
  | nothingToInsert => some "Expected to find at least one token"
  | reversedRange start stop => some s!"end must be >= start: {stop} < {start}"
  | unsupportedPredicate shown =>
      some s!"Invalid predicate supplied: {shown}. Expected function or token"
  | unsupportedStep shown => some s!"step must be 1 or -1: {shown}"
  | emptySequence edge => some s!"{edge.name}() called on an empty token sequence"
  | cursorOutside index length =>
      some s!"Cursor index {index} outside sequence of length {length}"
  | replacementOutside index length =>
      some s!"Cannot replace index {index} in sequence of length {length}"
  | spliceOutside start stop length =>
      some s!"Splice bounds [{start}, {stop}) outside sequence of length {length}"
  | callback message => some message
  | wrongKind | noSuchMember | indexOutside | zeroStep | tooLarge => none

end Fault

end TokenEditor
