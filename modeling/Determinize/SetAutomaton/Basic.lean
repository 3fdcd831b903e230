import Determinize.SetAutomaton.Edge

/-!
Deterministic automata whose states are sets of states. Such an automaton is an initial set and
a sorted set of edges; its states and its alphabet are read off the edges.

A successor is found by one look-up in the sorted edges: the empty set is the smallest set, so
the first edge that is not below `(source, symbol, ∅)` leads from `source` on `symbol` if any
edge does.
-/

namespace Determinize

structure SetAutomaton (Q S : Type) [TotalOrd Q] [TotalOrd S] where
  initial : StateSet Q
  edges : SortedSet (Edge Q S)
  deriving DecidableEq

namespace SetAutomaton

variable {Q S : Type} [TotalOrd Q] [TotalOrd S]

/-- The initial set and every set in which an edge starts or ends. -/
def states (a : SetAutomaton Q S) : SortedSet (StateSet Q) :=
  .ofList (a.initial :: a.edges.toList.flatMap fun e => [e.source, e.target])

/-- The symbols on the edges. -/
def alphabet (a : SetAutomaton Q S) : SortedSet S := a.edges.map Edge.symbol

/-- The set that is reached from `source` by reading `symbol`, if there is one. -/
def successor? (a : SetAutomaton Q S) (source : StateSet Q) (symbol : S) :
    Option (StateSet Q) :=
  (a.edges.ceiling? ⟨source, symbol, ∅⟩).filter
    (fun e => e.source = source && e.symbol = symbol) |>.map Edge.target

/-- The set that is reached from the initial set by reading `word`, if it can be read. -/
def run? (a : SetAutomaton Q S) (word : List S) : Option (StateSet Q) :=
  word.foldlM a.successor? a.initial

/-- Reading `word` leads to a set with a member that is accepting. -/
def accepts (a : SetAutomaton Q S) (word : List S) (accepting : Q → Bool) : Bool :=
  (a.run? word).any fun reached => reached.toList.any accepting

/-! ### Text -/

/-- One line for every edge. -/
instance [Display Q] [Display S] : Display (SetAutomaton Q S) where
  display a := String.join (a.edges.toList.map fun e => display e ++ "\n")

instance [Inspect Q] [Inspect S] : Inspect (SetAutomaton Q S) where
  inspect a :=
    "Powerset \x7b initial: " ++ inspect a.initial ++ ", edges: " ++ inspect a.edges ++ " \x7d"

end SetAutomaton

end Determinize
