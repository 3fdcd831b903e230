import Determinize.Relation.Builder
import Determinize.Relation.Insertion

/-!
Calls of a builder as data, and what a list of calls says without being carried out: the last
choice of the epsilon symbol (`lastChoice?`) and the transitions that are collected (`collected`).
-/

namespace Determinize

/-- One call of a builder. -/
inductive BuilderCall (Q S : Type) where
  | epsilon (symbol : S)
  | withoutEpsilon
  | transition (transition : Transition Q S)
  | withTransitions (transitions : List (Transition Q S))
  | withEpsilonTransitions (pairs : List (Q × Q))
  | clone

variable {Q S : Type}

namespace BuilderCall

/-- The choice about the epsilon symbol that a call makes, if it makes one. -/
def choice? : BuilderCall Q S → Option (Option S)
  | .epsilon symbol => some (some symbol)
  | .withoutEpsilon => some none
  | _ => none

/-- The insertions that a call asks for. -/
def insertions : BuilderCall Q S → List (Insertion Q S)
  | .transition t => [.add t]
  | .withTransitions ts => ts.map .add
  | .withEpsilonTransitions pairs => pairs.map fun p => .addEpsilon p.1 p.2
  | _ => []

/-- The last choice about the epsilon symbol among some calls. -/
def lastChoice? (calls : List (BuilderCall Q S)) : Option (Option S) :=
  (calls.filterMap choice?).getLast?

/-- The insertions that some calls ask for, in the order of the calls. -/
def collected (calls : List (BuilderCall Q S)) : List (Insertion Q S) :=
  calls.flatMap insertions

end BuilderCall

namespace Builder

/-- Carries out a call. A clone holds the same as the builder, and the calls go on with it. -/
def call (b : Builder Q S) : BuilderCall Q S → Builder Q S
  | .epsilon symbol => b.epsilon symbol
  | .withoutEpsilon => b.withoutEpsilon
  | .transition t => b.transition t
  | .withTransitions ts => b.withTransitions ts
  | .withEpsilonTransitions pairs => b.withEpsilonTransitions pairs
  | .clone => b

/-- The builder that some calls make of a new one. -/
def after (calls : List (BuilderCall Q S)) : Builder Q S := calls.foldl call {}

end Builder

end Determinize
