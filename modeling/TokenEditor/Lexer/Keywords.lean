import TokenEditor.Lexer.Settings

/-!
# Spellings of given keywords

The two casings of every keyword of a collection, each once and in order. Texts have casings, and so
have bytes, whose basic letters alone have a case; but the two kinds have no common order.
-/

namespace TokenEditor.Keywords

def capitalOctet (octet : Nat) : Nat := if 97 ≤ octet ∧ octet ≤ 122 then octet - 32 else octet

def smallOctet (octet : Nat) : Nat := if 65 ≤ octet ∧ octet ≤ 90 then octet + 32 else octet

def casings : Value → Except Fault (List Value)
  | .text s => .ok ((Operator.casings s).map .text)
  | .bytes octets => .ok [.bytes (octets.map capitalOctet), .bytes (octets.map smallOctet)]
  | _ => .error .noSuchMember

def text? : Value → Option String
  | .text s => some s
  | _ => none

def octets? : Value → Option (List Nat)
  | .bytes octets => some octets
  | _ => none

/-- Values in their order, if they are all texts or all bytes. -/
def inOrder (values : List Value) : Except Fault (List Value) :=
  match values.mapM text?, values.mapM octets? with
  | some spellings, _ => .ok ((Operator.sorted spellings).map .text)
  | none, some strings => .ok ((strings.mergeSort (fun a b => !decide (b < a))).map .bytes)
  | none, none => .error .wrongKind

def spellings (view : View) (keywords : Value) : Except Fault (List Value) := do
  let found ← (← keywords.elements view).mapM casings
  inOrder (Value.distinct found.flatten)

end TokenEditor.Keywords
