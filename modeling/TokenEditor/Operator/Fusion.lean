/-!
# Fusing neighbours into operators

Neighbouring pieces that spell an operator become one token, joined as they stand or else with a
space between. Only the token before a piece is looked at, so an operator of three pieces needs its
first two to be an operator as well.
-/

namespace TokenEditor.Operator

/-- The two spellings that `previous` and `piece` may have together, in the order of preference. -/
def spellings (previous piece : String) : List String :=
  [previous ++ piece, previous ++ " " ++ piece]

/-- The first of the two spellings that is an operator. -/
def join? (isOperator : String → Bool) (previous piece : String) : Option String :=
  (spellings previous piece).find? isOperator

/-- The tokens of `pieces`, of which `previous` is the token before them and still open. -/
def fuseFrom (isOperator : String → Bool) (previous : String) : List String → List String
  | [] => [previous]
  | piece :: rest =>
      match join? isOperator previous piece with
      | some joined => fuseFrom isOperator joined rest
      | none => previous :: fuseFrom isOperator piece rest

def fuse (isOperator : String → Bool) : List String → List String
  | [] => []
  | piece :: rest => fuseFrom isOperator piece rest

/-- A piece that met the token before it, and what the two became. -/
structure Meeting where
  previous : String
  piece : String
  joined : Option String

namespace Meeting

/-- The spellings that were looked up at a meeting: the second only where the first is none. -/
def asked (meeting : Meeting) : List String :=
  let together := spellings meeting.previous meeting.piece
  if meeting.joined = together.head? then together.take 1 else together

end Meeting

/-- The meetings while `pieces` follow the open token `previous`. -/
def meetingsFrom (isOperator : String → Bool) (previous : String) : List String → List Meeting
  | [] => []
  | piece :: rest =>
      let joined := join? isOperator previous piece
      ⟨previous, piece, joined⟩ :: meetingsFrom isOperator (joined.getD piece) rest

def meetings (isOperator : String → Bool) : List String → List Meeting
  | [] => []
  | piece :: rest => meetingsFrom isOperator piece rest

end TokenEditor.Operator
