import TokenEditor.Lexer.Basic

/-!
# Settings of a lexer

What a caller may ask of a lexer, and the faults of asking. A setting that is not given takes the
value of the standard lexer; one that is given as nothing does not.
-/

namespace TokenEditor

inductive CutterChoice where
  | cutter (cutter : Cutter)
  | other (value : Value)

structure Settings where
  operators : Option Value
  cutter : Option CutterChoice
  fuses : Option Value
  /-- Collections of further operators, in the order in which they are added. -/
  further : List Value

namespace Settings

def standard : Settings := ⟨none, none, none, []⟩

def members (view : View) (collection : Value) : Except Fault (List Value) := do
  let items ← collection.elements view
  if items.all Value.isSettled then return Value.distinct items else throw .wrongKind

def tableOf (view : View) : Option Value → Except Fault (List Value)
  | none => .ok Lexer.standard.operators
  | some (.text s) => .error (.operatorsAsText (Text.Quoted.encode s))
  | some collection => members view collection

def cutterOf (view : View) : Option CutterChoice → Except Fault Cutter
  | none => .ok .standard
  | some (.cutter cutter) => .ok cutter
  | some (.other value) =>
      if value.isCallable then .ok (.calling value)
      else .error (.lexerNotCallable (value.quoted view))

def lexer (settings : Settings) (view : View) : Except Fault Lexer := do
  let table ← tableOf view settings.operators
  let cutter ← cutterOf view settings.cutter
  let operators ← settings.further.foldlM
    (fun known collection => return Value.distinct (known ++ (← members view collection))) table
  return ⟨operators, cutter, settings.fuses.getD Lexer.standard.fuses⟩

end Settings

end TokenEditor
