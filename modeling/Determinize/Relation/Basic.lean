import Determinize.Index

/-!
The transition relation of a nondeterministic automaton with epsilon transitions.

A relation files its transitions in three indices and counts them. `add` decides by the epsilon
symbol which kind of transition it is given; a regular transition goes into `next` and `edges`,
an epsilon transition into `epsilon`. The epsilon symbol may only be changed while there are no
transitions, since later ones would be sorted differently from earlier ones.
-/

namespace Determinize

/-- A set of states, which is one state of a deterministic automaton. -/
abbrev StateSet (Q : Type) [TotalOrd Q] := SortedSet Q

/-- A step from `source` to `target` that reads `symbol`. -/
structure Transition (Q S : Type) where
  source : Q
  symbol : S
  target : Q

/-- What can be wrong with the choice of an epsilon symbol. -/
inductive RelationError where
  | missingEpsilon
  | epsilonAfterTransitions (transitions : Nat)
  deriving DecidableEq, Repr

def RelationError.message : RelationError → String
  | .missingEpsilon =>
    "no epsilon symbol configured, use `epsilon` or `without_epsilon` before building"
  | .epsilonAfterTransitions n =>
    "cannot change the epsilon symbol after " ++ n.repr ++ " transitions have been added"

/-- Transitions between states of type `Q` that read symbols of type `S` or nothing.

* `next` files the targets of regular transitions under their source and symbol,
* `epsilon` files the targets of epsilon transitions under their source,
* `edges` files the symbols of regular transitions under their source,
* `transitions` counts distinct transitions of both kinds. -/
structure Relation (Q S : Type) [TotalOrd Q] [TotalOrd S] where
  epsilonSymbol : Option S
  next : Index (Q × S) Q
  epsilon : Index Q Q
  edges : Index Q S
  transitions : Nat

namespace Relation

variable {Q S : Type} [TotalOrd Q] [TotalOrd S]

/-! ### Empty relations -/

/-- The relation without transitions; `epsilonSymbol` is the symbol that marks epsilon
transitions, if there is one. -/
def empty (epsilonSymbol : Option S) : Relation Q S := ⟨epsilonSymbol, ∅, ∅, ∅, 0⟩

/-- The relation without transitions in which `symbol` marks epsilon transitions. -/
def withEpsilon (symbol : S) : Relation Q S := empty (some symbol)

/-- The relation without transitions in which every symbol is a regular one. -/
def withoutEpsilon : Relation Q S := empty none

/-! ### Adding transitions -/

def isEpsilon (r : Relation Q S) (symbol : S) : Bool := r.epsilonSymbol = some symbol

theorem isEpsilon_iff {r : Relation Q S} {symbol : S} :
    r.isEpsilon symbol = true ↔ r.epsilonSymbol = some symbol := by
  simp [isEpsilon]

def addEpsilon (r : Relation Q S) (source target : Q) : Relation Q S :=
  { r with
    epsilon := r.epsilon.add source target
    transitions :=
      if target ∈ r.epsilon.lookup source then r.transitions else r.transitions + 1 }

/-- Adds a transition on a symbol that is not the epsilon symbol. -/
def addRegular (r : Relation Q S) (t : Transition Q S) : Relation Q S :=
  { r with
    edges := r.edges.add t.source t.symbol
    next := r.next.add (t.source, t.symbol) t.target
    transitions :=
      if t.target ∈ r.next.lookup (t.source, t.symbol) then r.transitions
      else r.transitions + 1 }

/-- Adds a transition, which is an epsilon transition if it is on the epsilon symbol. -/
def add (r : Relation Q S) (t : Transition Q S) : Relation Q S :=
  if r.isEpsilon t.symbol then r.addEpsilon t.source t.target else r.addRegular t

def addMany (r : Relation Q S) (ts : List (Transition Q S)) : Relation Q S := ts.foldl add r

/-- Chooses the epsilon symbol. Choosing the present one again is always fine; any other choice
is refused once there are transitions. -/
def setEpsilon (r : Relation Q S) (symbol : S) : Except RelationError (Relation Q S) :=
  if r.isEpsilon symbol then .ok r
  else if 0 < r.transitions then .error (.epsilonAfterTransitions r.transitions)
  else .ok { r with epsilonSymbol := some symbol }

/-! ### Queries -/

/-- The states reached from `state` by reading `symbol`. -/
def nextStates (r : Relation Q S) (state : Q) (symbol : S) : StateSet Q :=
  r.next.lookup (state, symbol)

/-- The states reached from a member of `states` by reading `symbol`. -/
def nextStatesFromSet (r : Relation Q S) (states : StateSet Q) (symbol : S) : StateSet Q :=
  states.flatMap fun state => r.nextStates state symbol

/-- The symbols that can be read in `state`. -/
def edgesFrom (r : Relation Q S) (state : Q) : SortedSet S := r.edges.lookup state

/-- The symbols that can be read in a member of `states`. -/
def edgesFromSet (r : Relation Q S) (states : StateSet Q) : SortedSet S :=
  states.flatMap r.edgesFrom

/-- The states reached from `state` by one epsilon transition. -/
def epsilonSuccessors (r : Relation Q S) (state : Q) : StateSet Q := r.epsilon.lookup state

/-- The symbols of all regular transitions. -/
def alphabet (r : Relation Q S) : SortedSet S := r.edges.values

/-- The states in which some transition starts or ends. -/
def states (r : Relation Q S) : StateSet Q :=
  .ofList (r.next.keys.map Prod.fst) ∪ r.next.values ∪ (.ofList r.epsilon.keys ∪ r.epsilon.values)

def isEmpty (r : Relation Q S) : Bool := r.transitions = 0

end Relation

end Determinize
