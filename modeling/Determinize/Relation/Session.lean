import Determinize.Relation.Builder

/-!
Programs that hold several relations. A relation is created, built or cloned from another one,
and each is edited on its own. `Relation.Reachable` describes the relations that a program can
come to hold.
-/

namespace Determinize

/-- One call of a program. Relations are numbered in the order in which they were made. -/
inductive Call (Q S : Type) where
  | withEpsilon (symbol : S)
  | withoutEpsilon
  | build (builder : Builder Q S)
  | clone (index : Nat)
  | edit (index : Nat) (edit : Edit Q S)

/-- The relations that a program holds. -/
abbrev Session (Q S : Type) [TotalOrd Q] [TotalOrd S] := List (Relation Q S)

namespace Session

variable {Q S : Type} [TotalOrd Q] [TotalOrd S]

/-- Carries out a call. Building without a choice of the epsilon symbol fails and makes no
relation, and a call about a relation that there is not does nothing. -/
def call (session : Session Q S) : Call Q S → Session Q S
  | .withEpsilon symbol => session ++ [.withEpsilon symbol]
  | .withoutEpsilon => session ++ [.withoutEpsilon]
  | .build builder =>
    match builder.build with
    | .ok r => session ++ [r]
    | .error _ => session
  | .clone index => session ++ session[index]?.toList
  | .edit index e => session.modify index fun r => r.edit e

/-- What a program holds after some calls. -/
def after (calls : List (Call Q S)) : Session Q S := calls.foldl call []

end Session

/-- A program can come to hold the relation `r`. -/
def Relation.Reachable {Q S : Type} [TotalOrd Q] [TotalOrd S] (r : Relation Q S) : Prop :=
  ∃ calls : List (Call Q S), r ∈ Session.after calls

end Determinize
