import TokenEditor.Lexer.Basic

/-!
# Payloads

What is to be written in place of tokens: a fixed list, or a function of the tokens that stand
there. A text is lexed, other collections are taken as lists of tokens. What is written in the end
are texts only: missing items and empty texts are dropped from the list.
-/

namespace TokenEditor

inductive Payload where
  | fixed (tokens : List Value)
  | computed (callable : Value)

namespace Payload

/-- The list of tokens that a value stands for. -/
def listed (host : Host) (lexer : Lexer) (view : View) (value : Value) : Attempt (List Value) :=
  match value with
  | .null => pure []
  | .text _ => do return (← lexer.tokens host view value).map .text
  | _ =>
      match value.elements? view with
      | some items => pure items
      | none => .fail (.unsupportedPayload value.kindName)

/-- The payload that a value stands for; a text is lexed at once. -/
def ofValue (host : Host) (lexer : Lexer) (view : View) (value : Value) : Attempt Payload :=
  match value with
  | .literal tokens => pure (fixed tokens)
  | .transform callable => pure (computed callable)
  | .function _ | .predicate _ => pure (computed value)
  | _ => do return fixed (← listed host lexer view value)

/-- The tokens to write; only a function needs what stands there now. -/
def tokens (host : Host) (lexer : Lexer) (view : View) (current : Except Fault Value) :
    Payload → Attempt (List Value)
  | fixed tokens => pure tokens
  | computed callable => do
      let result ← host.call callable (← current)
      listed host lexer view result

/-- How often what stands there is looked at. -/
def reads : Payload → Nat
  | fixed _ => 0
  | computed _ => 1

/-- The token that an item of a run is written as, if it is written at all. -/
def written? (view : View) : Value → Option String
  | .null => none
  | .text s => if s = "" then none else some s
  | value => some (value.shown view)

/-- The tokens that a run is written as; a text is one token here, and is not lexed. -/
def written (view : View) : Value → Except Fault (List String)
  | .null => .ok []
  | .text s => .ok ([Value.text s].filterMap (written? view))
  | run => do return (← run.elements view).filterMap (written? view)

end Payload

end TokenEditor
