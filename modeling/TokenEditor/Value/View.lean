import TokenEditor.Decimal.Notation
import TokenEditor.Entries.Basic
import TokenEditor.Fault
import TokenEditor.Text.Quoted
import TokenEditor.Value.Basic

/-!
# Values seen through a workspace

What a value shows of itself: its text, its quoted form, its elements and its truth. Sequences and
cursors are only named by a value, so a `View` says what stands behind the names.
-/

namespace TokenEditor

/-- What the sequences and cursors of a workspace look like from outside. -/
structure View where
  entries : SequenceId → List Entry
  itemText : ItemId → String
  rangeText : RangeId → String
  itemsAgree : ItemId → ItemId → Bool
  rangesAgree : RangeId → RangeId → Bool

namespace View

def ofEntries (entries : SequenceId → List Entry) : View :=
  ⟨entries, fun _ => "", fun _ => "", fun _ _ => false, fun _ _ => false⟩

def empty : View := ofEntries fun _ => []

end View

namespace Value

def listed (parts : List String) : String := "[" ++ ", ".intercalate parts ++ "]"

/-- A single part keeps its comma, to tell it from a bracketed value. -/
def tupled : List String → String
  | [part] => "(" ++ part ++ ",)"
  | parts => "(" ++ ", ".intercalate parts ++ ")"

def quotedEntry : Entry → String
  | some token => Text.Quoted.encode token
  | none => "None"

mutual

/-- The form of a value in which texts are quoted, so that its kind can be told. -/
def quoted (view : View) : Value → String
  | null => "None"
  | bool b => if b then "True" else "False"
  | int i => toString i
  | float x => Decimal.write x
  | nan _ => "nan"
  | text s => Text.Quoted.encode s
  | list items => listed (quotedAll view items)
  | tuple items => tupled (quotedAll view items)
  | stream _ => "<iterator>"
  | bytes octets => Text.Quoted.encodeBytes octets
  | dict entries => "\x7b" ++ ", ".intercalate (quotedPairs view entries) ++ "\x7d"
  | literal tokens => "LiteralReplacement(tokens=" ++ tupled (quotedAll view tokens) ++ ")"
  | transform callable => "TransformReplacement(transform=" ++ quoted view callable ++ ")"
  | function _ | predicate _ => "<function>"
  | sequence id => "TokenSequence(" ++ listed ((view.entries id).map quotedEntry) ++ ")"
  | item id => view.itemText id
  | range id => view.rangeText id

def quotedAll (view : View) : List Value → List String
  | [] => []
  | value :: rest => quoted view value :: quotedAll view rest

def quotedPairs (view : View) : List (String × Value) → List String
  | [] => []
  | (key, value) :: rest =>
      (Text.Quoted.encode key ++ ": " ++ quoted view value) :: quotedPairs view rest

end

/-- The text of a value: a text is its own, a sequence is rendered, all else is quoted. -/
def shown (view : View) : Value → String
  | text s => s
  | sequence id => Entries.render (view.entries id)
  | value => value.quoted view

/-- The elements of a value that has some, in order. -/
def elements? (view : View) : Value → Option (List Value)
  | text s => some (s.toList.map fun c => text (String.singleton c))
  | list items | tuple items | stream items => some items
  | bytes octets => some (octets.map fun octet => int (Int.ofNat octet))
  | dict entries => some (entries.map fun entry => text entry.1)
  | sequence id => some ((view.entries id).map ofEntry)
  | _ => none

def elements (view : View) (value : Value) : Except Fault (List Value) :=
  match value.elements? view with
  | some items => .ok items
  | none => .error .wrongKind

/-- Nothing, zero and whatever is empty count as false, all else as true. -/
def isTrue (view : View) : Value → Bool
  | null => false
  | bool b => b
  | int i => i != 0
  | float x => x != 0
  | text s => s != ""
  | list items | tuple items => !items.isEmpty
  | bytes octets => !octets.isEmpty
  | dict entries => !entries.isEmpty
  | sequence id => !(view.entries id).isEmpty
  | _ => true

end Value

end TokenEditor
