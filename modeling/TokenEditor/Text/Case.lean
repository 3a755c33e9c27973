import TokenEditor.Text.Case.Table

/-!
# Case

Small and capital forms of whole texts. A form may be longer than the letter it belongs to, and the
small sigma takes another shape where it ends a word.
-/

namespace TokenEditor.Text.Case

def capitalOf (c : Char) : List Char :=
  match longCapitals.lookup c.toNat with
  | some codes => codes.map Char.ofNat
  | none => [Char.ofNat (Run.move c.toNat raising)]

def upper (text : String) : String := String.ofList (text.toList.flatMap capitalOf)

/-- The capital I with a dot keeps its dot as a combining mark. -/
def smallOf (c : Char) : List Char :=
  if c = '\u0130' then ['i', '\u0307'] else [Char.ofNat (Run.move c.toNat lowering)]

/-- Whether the nearest character that is not passed over has a case. -/
def nextIsCased (text : List Char) : Bool :=
  match text.dropWhile (fun c => inSpans c.toNat ignorableSpans) with
  | [] => false
  | c :: _ => inSpans c.toNat casedSpans

/-- A sigma after a letter and before none ends a word. `before` is read backward. -/
def smallSigma (before after : List Char) : Char :=
  if nextIsCased before && !nextIsCased after then 'ς' else 'σ'

/-- The small form of `text`, which stands after `before` read backward. -/
def lowerAfter (before : List Char) : List Char → List Char
  | [] => []
  | c :: rest =>
      (if c = 'Σ' then [smallSigma before rest] else smallOf c) ++ lowerAfter (c :: before) rest

def lower (text : String) : String := String.ofList (lowerAfter [] text.toList)

end TokenEditor.Text.Case
