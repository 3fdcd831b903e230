import Determinize.Relation.Basic

/-!
Histories of a relation. An `Edit` is one request to a relation, and replaying a list of edits
carries them out in order. A refused edit leaves the relation as it is.
-/

namespace Determinize

/-- One request to a relation. -/
inductive Edit (Q S : Type) where
  | add (transition : Transition Q S)
  | addEpsilon (source target : Q)
  | setEpsilon (symbol : S)

variable {Q S : Type} [TotalOrd Q] [TotalOrd S]

namespace Relation

def edit (r : Relation Q S) : Edit Q S → Relation Q S
  | .add t => r.add t
  | .addEpsilon source target => r.addEpsilon source target
  | .setEpsilon symbol =>
    match r.setEpsilon symbol with
    | .ok r' => r'
    | .error _ => r

def replay (r : Relation Q S) (edits : List (Edit Q S)) : Relation Q S := edits.foldl edit r

@[simp]
theorem replay_nil (r : Relation Q S) : r.replay [] = r := rfl

@[simp]
theorem replay_cons (r : Relation Q S) (e : Edit Q S) (edits : List (Edit Q S)) :
    r.replay (e :: edits) = (r.edit e).replay edits := rfl

theorem replay_append (r : Relation Q S) (edits edits' : List (Edit Q S)) :
    r.replay (edits ++ edits') = (r.replay edits).replay edits' :=
  List.foldl_append ..

theorem replay_map_add (r : Relation Q S) (ts : List (Transition Q S)) :
    r.replay (ts.map .add) = r.addMany ts :=
  List.foldl_map ..

/-- The relations that arise from an empty one by some history. -/
def Constructible (r : Relation Q S) : Prop :=
  ∃ (epsilonSymbol : Option S) (edits : List (Edit Q S)), r = (empty epsilonSymbol).replay edits

end Relation

end Determinize
