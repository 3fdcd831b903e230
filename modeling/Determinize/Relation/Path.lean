import Determinize.Relation.Closure

/-!
Paths through a relation. A path reads the symbols of its regular transitions; between them it
may follow any number of epsilon transitions. `Path.append` composes paths along the
concatenation of their words, and a path on the empty word is nothing but epsilon transitions
(`path_nil_iff`).
-/

namespace Determinize

variable {Q S : Type} [TotalOrd Q] [TotalOrd S]

/-- There is a path from the first state to the second one that reads the word. -/
inductive Path (r : Relation Q S) : Q → List S → Q → Prop where
  | refl {p : Q} : Path r p [] p
  | epsilon {p p' q : Q} {word : List S} : p' ∈ r.epsilonSuccessors p → Path r p' word q →
      Path r p word q
  | symbol {p p' q : Q} {a : S} {word : List S} : p' ∈ r.nextStates p a → Path r p' word q →
      Path r p (a :: word) q

variable {r : Relation Q S} {p q q' : Q} {word word' : List S}

theorem EpsilonReachable.trans (hpq : EpsilonReachable r p q) (hqq' : EpsilonReachable r q q') :
    EpsilonReachable r p q' := by
  induction hqq' with
  | refl => exact hpq
  | step _ hstep ih => exact .step ih hstep

theorem Path.append (h : Path r p word q) (h' : Path r q word' q') :
    Path r p (word ++ word') q' := by
  induction h with
  | refl => exact h'
  | epsilon hstep _ ih => exact .epsilon hstep (ih h')
  | symbol hstep _ ih => exact .symbol hstep (ih h')

theorem EpsilonReachable.path (h : EpsilonReachable r p q) : Path r p [] q := by
  induction h with
  | refl => exact .refl
  | step _ hstep ih => exact Path.append ih (.epsilon hstep .refl)

/-- A path that reads nothing follows epsilon transitions only. -/
theorem path_nil_iff : Path r p [] q ↔ EpsilonReachable r p q := by
  refine ⟨fun h => ?_, EpsilonReachable.path⟩
  generalize hw : ([] : List S) = word at h
  induction h with
  | refl => exact .refl
  | epsilon hstep _ ih => exact EpsilonReachable.trans (.step .refl hstep) (ih hw)
  | symbol => cases hw

end Determinize
