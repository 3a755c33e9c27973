import TokenEditor.Host
import TokenEditor.Operator.Table
import TokenEditor.Piece.Cutting
import TokenEditor.Value.Order

/-!
# Lexers

A lexer cuts a text into pieces and fuses those that spell one of its operators. How it cuts can be
chosen, and may be left to the host; the standard way is that of `Piece.pieces`.
-/

namespace TokenEditor

inductive Cutter where
  | standard
  /-- The runs between blanks. -/
  | atBlanks
  | perCharacter
  /-- The stretches between commas, also the empty ones. -/
  | atCommas
  | fixed (answer : Value)
  | calling (callable : Value)

namespace Cutter

def betweenBlanks (text : List Char) : List (List Char) :=
  (text.splitOnP Text.isBlank).filter (!·.isEmpty)

/-- The pieces of a value, which need not be texts yet. -/
def cut (host : Host) (view : View) (value : Value) : Cutter → Attempt (List Value)
  | standard =>
      match value with
      | .text s => pure ((Piece.pieces s).map .text)
      | _ => .fail .wrongKind
  | atBlanks =>
      match value with
      | .text s => pure ((betweenBlanks s.toList).map (.text ∘ String.ofList))
      | _ => .fail .wrongKind
  | perCharacter => value.elements view
  | atCommas =>
      match value with
      | .text s => pure ((s.toList.splitOn ',').map (.text ∘ String.ofList))
      | .bytes _ => .fail .wrongKind
      | _ => .fail .noSuchMember
  | fixed answer => answer.elements view
  | calling callable => do (← host.call callable value).elements view

/-- The cutter once it has been used: a stream that it holds is spent. -/
def used : Cutter → Cutter
  | fixed (.stream _) => fixed (.stream [])
  | cutter => cutter

end Cutter

structure Lexer where
  /-- The operators in the order in which they became known; not all need be texts. -/
  operators : List Value
  cutter : Cutter
  /-- Whether pieces are fused at all, by the truth of this value. -/
  fuses : Value

namespace Lexer

def standard : Lexer := ⟨Operator.stock.map .text, .standard, .bool true⟩

def isOperator (lexer : Lexer) (spelling : String) : Bool :=
  lexer.operators.any (Value.isSameMember View.empty (.text spelling))

/-- Whether any value is among the operators; one that may change cannot be looked up. -/
def knows (lexer : Lexer) (value : Value) : Except Fault Bool :=
  if value.isSettled then .ok (lexer.operators.any (value.isSameMember View.empty))
  else .error .wrongKind

def pieces (lexer : Lexer) (host : Host) (view : View) (value : Value) : Attempt (List String) := do
  return (← lexer.cutter.cut host view value).map (Value.shown view)

def tokens (lexer : Lexer) (host : Host) (view : View) (value : Value) :
    Attempt (List String) := do
  let found ← lexer.pieces host view value
  if lexer.fuses.isTrue view then
    Attempt.note (.lexed (Operator.meetings lexer.isOperator found))
    return Operator.fuse lexer.isOperator found
  else
    Attempt.note (.lexed [])
    return found

def used (lexer : Lexer) : Lexer := { lexer with cutter := lexer.cutter.used }

/-- The operators in order: texts by their code points, then all else by what it shows. -/
def table (lexer : Lexer) (view : View) : List Value :=
  let spellings := lexer.operators.filterMap fun
    | .text s => some s
    | _ => none
  let others := lexer.operators.filter fun
    | .text _ => false
    | _ => true
  (Operator.sorted spellings).map .text ++
    others.mergeSort (fun a b => a.shown view ≤ b.shown view)

end Lexer

end TokenEditor
