import Determinize.Relation.Basic
import Determinize.Search

/-!
The epsilon closure of a set of states: the states that can be reached from its members without
reading a symbol. `EpsilonReachable` is the relation and `Relation.epsilonClosure` the search
that computes it.
-/

namespace Determinize

variable {Q S : Type} [TotalOrd Q] [TotalOrd S]

/-- `q` is reached from `p` by zero or more epsilon transitions. -/
inductive EpsilonReachable (r : Relation Q S) (p : Q) : Q → Prop where
  | refl : EpsilonReachable r p p
  | step {q q' : Q} : EpsilonReachable r p q → q' ∈ r.epsilonSuccessors q →
      EpsilonReachable r p q'

namespace Relation

/-- The states that are reached from `states` by epsilon transitions, found by depth-first
search. Every state that is visited is one of `states` or the target of an epsilon transition,
so the limit is never felt. -/
def epsilonClosure (r : Relation Q S) (states : StateSet Q) : StateSet Q :=
  .ofList <| Search.depthFirst (fun state => (r.epsilonSuccessors state).toList)
    (states.size + r.epsilon.size) states.toList

def epsilonClosureOf (r : Relation Q S) (state : Q) : StateSet Q :=
  r.epsilonClosure (.singleton state)

end Relation

end Determinize
