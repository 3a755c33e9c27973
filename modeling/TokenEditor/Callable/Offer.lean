import TokenEditor.Callable.Predicate
import TokenEditor.Callable.Transform
import TokenEditor.Host

/-!
# A host of ready-made callables

Functions and predicates are named by their places in two lists.
-/

namespace TokenEditor.Callable

structure Offer where
  transforms : Array Transform
  predicates : Array Predicate

namespace Offer

def empty : Offer := ⟨#[], #[]⟩

def addTransform (offer : Offer) (transform : Transform) : Offer × CallableId :=
  ({ offer with transforms := offer.transforms.push transform }, offer.transforms.size)

def addPredicate (offer : Offer) (predicate : Predicate) : Offer × CallableId :=
  ({ offer with predicates := offer.predicates.push predicate }, offer.predicates.size)

def host (offer : Offer) : Host where
  transform id argument :=
    match offer.transforms[id]? with
    | some transform => transform.apply argument
    | none => .error .wrongKind
  judge id entry index :=
    match offer.predicates[id]? with
    | some predicate => predicate.apply entry index
    | none => .error .wrongKind

end Offer

end TokenEditor.Callable
