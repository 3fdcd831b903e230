import Determinize.Relation.History

/-!
Building a relation from transitions that are collected before the epsilon symbol is known. The
last choice about the epsilon symbol holds for all transitions, whenever they were collected.
`Builder.build` fails exactly if no choice has been made.
-/

namespace Determinize

/-- What has been said about the epsilon symbol. -/
inductive EpsilonChoice (S : Type) where
  | undecided
  | symbol (symbol : S)
  | absent

/-- Transitions that wait for the choice of the epsilon symbol. The pairs in
`epsilonTransitions` are epsilon transitions under every choice. -/
structure Builder (Q S : Type) where
  choice : EpsilonChoice S := .undecided
  transitions : List (Transition Q S) := []
  epsilonTransitions : List (Q × Q) := []

namespace Builder

variable {Q S : Type}

def epsilon (b : Builder Q S) (symbol : S) : Builder Q S := { b with choice := .symbol symbol }

def withoutEpsilon (b : Builder Q S) : Builder Q S := { b with choice := .absent }

def withTransitions (b : Builder Q S) (ts : List (Transition Q S)) : Builder Q S :=
  { b with transitions := b.transitions ++ ts }

def transition (b : Builder Q S) (t : Transition Q S) : Builder Q S := b.withTransitions [t]

def withEpsilonTransitions (b : Builder Q S) (pairs : List (Q × Q)) : Builder Q S :=
  { b with epsilonTransitions := b.epsilonTransitions ++ pairs }

/-- The epsilon symbol that has been chosen, if a choice has been made. -/
def epsilonSymbol (b : Builder Q S) : Except RelationError (Option S) :=
  match b.choice with
  | .undecided => .error .missingEpsilon
  | .symbol symbol => .ok (some symbol)
  | .absent => .ok none

/-- The collected transitions as edits, the regular ones first. -/
def edits (b : Builder Q S) : List (Edit Q S) :=
  b.transitions.map .add ++ b.epsilonTransitions.map fun p => .addEpsilon p.1 p.2

def build [TotalOrd Q] [TotalOrd S] (b : Builder Q S) : Except RelationError (Relation Q S) :=
  b.epsilonSymbol.map fun symbol => (Relation.empty symbol).replay b.edits

end Builder

end Determinize
