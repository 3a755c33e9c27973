import TokenEditor.Text.Case
import TokenEditor.Value.View

/-!
# Ready-made functions

Functions of one argument that a host can offer: a token, a missing token, or a list of tokens. Each
names what it can act on, and gives up on everything else.
-/

namespace TokenEditor.Callable

inductive Transform where
  | const (value : Value)
  | upper
  | lower
  | same
  | dup
  | reverse
  | join (separator : String)
  | wrap
  | append (suffix : Value)
  /-- Puts a token at the end of the list that it was given. -/
  | mutate
  | clear
  | giveUp
  deriving Inhabited

namespace Transform

def badArgument : Fault := .callback "bad argument"

/-- A function of texts, on a text, and in a list on each item that is not missing. -/
def onTexts (f : String → String) : Value → Except Fault Value
  | .text s => .ok (.text (f s))
  | .list items => .list <$> items.mapM fun
      | .null => .ok .null
      | .text s => .ok (.text (f s))
      | _ => .error badArgument
  | _ => .error badArgument

def textsOf (items : List Value) : Except Fault (List String) :=
  List.flatten <$> items.mapM fun
    | .null => .ok []
    | .text s => .ok [s]
    | _ => .error badArgument

def joined (separator : String) : Value → Except Fault Value
  | .text s => .ok (.text (separator.intercalate (s.toList.map String.singleton)))
  | .list items => do return .text (separator.intercalate (← textsOf items))
  | _ => .error badArgument

def apply (argument : Value) : Transform → Except Fault Value
  | const value => .ok value
  | upper => onTexts Text.Case.upper argument
  | lower => onTexts Text.Case.lower argument
  | same => .ok argument
  | dup =>
      match argument with
      | .list items => .ok (.list (items ++ items))
      | value => .ok (.list [value, value])
  | reverse =>
      match argument with
      | .text s => .ok (.text (String.ofList s.toList.reverse))
      | .list items => .ok (.list items.reverse)
      | _ => .error badArgument
  | join separator => joined separator argument
  | wrap =>
      match argument with
      | .text s => .ok (.text ("(" ++ s ++ ")"))
      | .list items => .ok (.list (.text "(" :: items ++ [.text ")"]))
      | _ => .error badArgument
  | append suffix =>
      match argument, suffix with
      | .text s, .text t => .ok (.text (s ++ t))
      | .list items, .list more => .ok (.list (items ++ more))
      | _, _ => .error badArgument
  | mutate =>
      match argument with
      | .list items => .ok (.list (items ++ [.text "zz"]))
      | _ => .error badArgument
  | clear =>
      match argument with
      | .list _ => .ok (.list [.text "z"])
      | _ => .error badArgument
  | giveUp => .error (.callback "boom")

end Transform

end TokenEditor.Callable
