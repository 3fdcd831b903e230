import Determinize.Relation.Closure
import Determinize.SetAutomaton.Basic

/-!
The subset construction. A pair of a set of states and a symbol that can be read in it is worked
off once; its edge leads to the closed set of states reached by the symbol, whose own pairs are
then waiting. Pairs are worked off depth first, starting with those of the initial set.

`Relation.explored` lists the pairs in the order in which they are worked off and
`Relation.determinize` collects their edges.
-/

namespace Determinize

variable {Q S : Type} [TotalOrd Q] [TotalOrd S]

namespace Relation

/-- The closed set of states that is reached from `states` by reading `symbol`. -/
def stepSet (r : Relation Q S) (states : StateSet Q) (symbol : S) : StateSet Q :=
  r.epsilonClosure (r.nextStatesFromSet states symbol)

/-- The pairs of `states` and a symbol that can be read in it. -/
def pairsOf (r : Relation Q S) (states : StateSet Q) : List (StateSet Q × S) :=
  (r.edgesFromSet states).toList.map fun symbol => (states, symbol)

/-- The pairs that the construction works off, in this order. Every pair is a set of states of
the relation or `start`, together with a symbol of the alphabet, so the limit is never felt. -/
def explored (r : Relation Q S) (start : Q) : List (StateSet Q × S) :=
  Search.depthFirst (fun pair => r.pairsOf (r.stepSet pair.1 pair.2))
    (Nat.pow 2 (r.states.insert start).size * r.alphabet.size)
    (r.pairsOf (r.epsilonClosureOf start))

/-- The edge that belongs to a pair. -/
def edgeOf (r : Relation Q S) (pair : StateSet Q × S) : Edge Q S :=
  ⟨pair.1, pair.2, r.stepSet pair.1 pair.2⟩

/-- The edges in the order in which the construction finds them. -/
def discoveries (r : Relation Q S) (start : Q) : List (Edge Q S) :=
  (r.explored start).map r.edgeOf

/-- The subset construction from `start`. -/
def determinize (r : Relation Q S) (start : Q) : SetAutomaton Q S where
  initial := r.epsilonClosureOf start
  edges := .ofList (r.discoveries start)

end Relation

/-! ### The sets that are reached -/

/-- The least family of sets that contains the closure of `start` and is closed under reading
symbols. -/
inductive Discovered (r : Relation Q S) (start : Q) : StateSet Q → Prop where
  | initial : Discovered r start (r.epsilonClosureOf start)
  | step {states : StateSet Q} {symbol : S} : Discovered r start states →
      symbol ∈ r.edgesFromSet states → Discovered r start (r.stepSet states symbol)

end Determinize
