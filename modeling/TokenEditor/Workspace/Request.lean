import TokenEditor.Lexer.Settings

/-!
# Requests

Everything that can be asked of a workspace. Arguments are values of any kind; whether an operation
can act on them is part of its answer.
-/

namespace TokenEditor

inductive SequenceRequest where
  | length
  | entries
  /-- The entry at an index, which counts from the end when negative. -/
  | entry (index : Value)
  | slice (start stop step : Value)
  | render
  | lex (text : Value)
  | find (wanted caseSensitive start : Value)
  | first
  | last
  | select (start step criterion : Value)
  | replaceRange (start stop run : Value)
  | replaceAt (index run : Value)
  | insertAt (index run : Value)

inductive ItemRequest where
  | index
  | owner
  | setIndex (index : Value)
  | setOwner (owner : SequenceId)
  | token
  | peek (count : Value)
  /-- The next place of a wanted token; with nothing wanted, the cursor itself moves on by one. -/
  | next (wanted caseSensitive : Value)
  | replace (payload : Value)
  | insertBefore (run : Value)
  | insertAfter (run : Value)
  | select (criterion : Value)
  | selectPrevious (criterion : Value)
  | selectNext (criterion : Value)

inductive RangeRequest where
  | start
  | stop
  | owner
  | length
  | setStart (start : Value)
  | setStop (stop : Value)
  | setOwner (owner : SequenceId)
  | entries
  | first
  | last
  | extendLeft (criterion : Value)
  | extendRight (criterion : Value)
  | replace (payload : Value)

inductive Request where
  | newSequence (source : Value) (settings : Settings)
  | newItem (owner : SequenceId) (index : Value)
  | newRange (owner : SequenceId) (start stop : Value)
  | ofSequence (id : SequenceId) (request : SequenceRequest)
  | ofItem (id : ItemId) (request : ItemRequest)
  | ofRange (id : RangeId) (request : RangeRequest)
  | compare (a b : Value)
  | display (value : Value)
  | quote (value : Value)

end TokenEditor
