import TokenEditor.Entries.Basic

/-!
# Values

What an operation may be given and what it may answer. Callers decide the kind of every argument, so
one type covers them all; each operation says which kinds it can act on. Sequences and cursors live
in a workspace, and callables belong to the host; a value only names them.
-/

namespace TokenEditor

abbrev SequenceId := Nat

abbrev ItemId := Nat

abbrev RangeId := Nat

abbrev CallableId := Nat

/-- Tells apart the doubles that are not numbers, each of which is only itself. -/
abbrev NanId := Nat

inductive Value where
  | null
  | bool (b : Bool)
  | int (i : Int)
  | float (x : Float)
  | nan (id : NanId)
  | text (s : String)
  | list (items : List Value)
  | tuple (items : List Value)
  /-- Items that can be read once. -/
  | stream (items : List Value)
  | bytes (octets : List Nat)
  | dict (entries : List (String × Value))
  /-- A payload that stands ready with these tokens. -/
  | literal (tokens : List Value)
  /-- A payload that is to be computed by calling a value, whether or not it can be called. -/
  | transform (callable : Value)
  /-- A callable of one argument. -/
  | function (id : CallableId)
  /-- A callable of an entry and its place. -/
  | predicate (id : CallableId)
  | sequence (id : SequenceId)
  | item (id : ItemId)
  | range (id : RangeId)

namespace Value

instance : Inhabited Value := ⟨null⟩

def ofEntry : Entry → Value
  | some token => text token
  | none => null

def ofEntries (entries : List Entry) : Value := list (entries.map ofEntry)

/-- The whole number that a value counts as; truth values count as 0 and 1. -/
def whole? : Value → Option Int
  | int i => some i
  | bool b => some (if b then 1 else 0)
  | _ => none

@[simp] theorem whole?_int (i : Int) : (int i).whole? = some i := rfl

def isCallable : Value → Bool
  | function _ | predicate _ => true
  | _ => false

/-- The name of a value's kind, as messages give it. -/
def kindName : Value → String
  | null => "NoneType"
  | bool _ => "bool"
  | int _ => "int"
  | float _ | nan _ => "float"
  | text _ => "str"
  | list _ => "list"
  | tuple _ => "tuple"
  | stream _ => "list_iterator"
  | bytes _ => "bytes"
  | dict _ => "dict"
  | literal _ => "LiteralReplacement"
  | transform _ => "TransformReplacement"
  | function _ | predicate _ => "function"
  | sequence _ => "TokenSequence"
  | item _ => "ItemCursor"
  | range _ => "RangeCursor"

end Value

end TokenEditor
