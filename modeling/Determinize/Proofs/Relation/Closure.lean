import Determinize.Proofs.Relation.Queries
import Determinize.Proofs.Search.DepthFirst
import Determinize.Relation.Path

/-!
The search for an epsilon closure finds exactly what epsilon transitions reach.

* `mem_epsilonClosure_iff`: a state is in the closure exactly if it is reached from some member
  by epsilon transitions. This holds of every relation, whatever cycles its epsilon transitions
  form, because the members and the targets of all epsilon transitions enclose the search.
* `epsilonClosure_eq_self_iff`: a set is its own closure exactly if it contains the epsilon
  successors of its members; `epsilonClosure_idem` is the case of a closure.
-/

namespace Determinize.Relation

variable {Q S : Type} [TotalOrd Q] [TotalOrd S] {r : Relation Q S} {states : StateSet Q} {q : Q}

/-! ### The search -/

/-- The epsilon successors of a state, as the search for a closure visits them. -/
def epsilonStep (r : Relation Q S) (state : Q) : List Q := (r.epsilonSuccessors state).toList

theorem mem_epsilonStep {p : Q} : q ∈ r.epsilonStep p ↔ q ∈ r.epsilonSuccessors p := Iff.rfl

/-- The search for a closure stays among the given states and the targets of epsilon
transitions. -/
theorem encloses_epsilonStep (r : Relation Q S) (states : StateSet Q) :
    Search.Encloses r.epsilonStep states.toList (states.toList ++ r.epsilon.contents) where
  starts_mem q hq := List.mem_append_left _ hq
  successors_mem p _ q hq := by
    have target : q ∈ r.epsilon.contents := Index.mem_contents_iff.mpr ⟨p, mem_epsilonStep.mp hq⟩
    exact List.mem_append_right _ target

theorem length_encloses_epsilonStep (r : Relation Q S) (states : StateSet Q) :
    (states.toList ++ r.epsilon.contents).length = states.size + r.epsilon.size := by
  rw [List.length_append, Index.length_contents, SortedSet.size]

theorem reached_epsilonStep_iff :
    Search.Reached r.epsilonStep states.toList q ↔ ∃ p ∈ states, EpsilonReachable r p q := by
  constructor
  · intro h
    induction h with
    | start hs => exact ⟨_, hs, .refl⟩
    | step _ hstep ih =>
      obtain ⟨p, hp, hpm⟩ := ih
      exact ⟨p, hp, .step hpm hstep⟩
  · rintro ⟨p, hp, h⟩
    induction h with
    | refl => exact .start hp
    | step _ hstep ih => exact .step ih hstep

/-- The closure of a set holds exactly what is reached from its members by epsilon
transitions. -/
theorem mem_epsilonClosure_iff :
    q ∈ r.epsilonClosure states ↔ ∃ p ∈ states, EpsilonReachable r p q := by
  rw [epsilonClosure, SortedSet.mem_ofList]
  refine Iff.trans ?_ reached_epsilonStep_iff
  exact Search.mem_depthFirst_iff (encloses_epsilonStep r states)
    (Nat.le_of_eq (length_encloses_epsilonStep r states))

theorem mem_epsilonClosureOf_iff {p : Q} :
    q ∈ r.epsilonClosureOf p ↔ EpsilonReachable r p q := by
  rw [epsilonClosureOf, mem_epsilonClosure_iff]
  constructor
  · rintro ⟨p', hp', h⟩
    rw [SortedSet.mem_singleton.mp hp'] at h
    exact h
  · intro h
    exact ⟨p, SortedSet.mem_singleton.mpr rfl, h⟩

/-! ### Closed sets -/

theorem subset_epsilonClosure (hq : q ∈ states) : q ∈ r.epsilonClosure states :=
  mem_epsilonClosure_iff.mpr ⟨q, hq, .refl⟩

/-- A set is its own closure exactly if no epsilon transition leaves it. -/
theorem epsilonClosure_eq_self_iff :
    r.epsilonClosure states = states ↔
      ∀ p ∈ states, ∀ q ∈ r.epsilonSuccessors p, q ∈ states := by
  constructor
  · intro closed p hp q hq
    rw [← closed]
    exact mem_epsilonClosure_iff.mpr ⟨p, hp, .step .refl hq⟩
  · intro closed
    ext q
    rw [mem_epsilonClosure_iff]
    constructor
    · rintro ⟨p, hp, h⟩
      induction h with
      | refl => exact hp
      | step _ hstep ih => exact closed _ ih _ hstep
    · intro hq
      exact ⟨q, hq, .refl⟩

/-- A closure is its own closure. -/
theorem epsilonClosure_idem :
    r.epsilonClosure (r.epsilonClosure states) = r.epsilonClosure states := by
  apply epsilonClosure_eq_self_iff.mpr
  intro p hp q hq
  obtain ⟨start, hstart, hreach⟩ := mem_epsilonClosure_iff.mp hp
  exact mem_epsilonClosure_iff.mpr ⟨start, hstart, .step hreach hq⟩

theorem epsilonClosure_epsilonClosureOf (p : Q) :
    r.epsilonClosure (r.epsilonClosureOf p) = r.epsilonClosureOf p := epsilonClosure_idem

theorem epsilonClosure_empty : r.epsilonClosure ∅ = ∅ := by
  apply epsilonClosure_eq_self_iff.mpr
  intro p hp
  exact absurd hp (SortedSet.not_mem_empty p)

theorem epsilonClosure_ne_empty (h : states ≠ ∅) : r.epsilonClosure states ≠ ∅ := by
  obtain ⟨q, hq⟩ := SortedSet.ne_empty_iff.mp h
  exact SortedSet.ne_empty_of_mem (subset_epsilonClosure hq)

/-- Epsilon transitions lead from a state to states of the relation only. -/
theorem eq_or_mem_states {p : Q} (h : EpsilonReachable r p q) : q = p ∨ q ∈ r.states := by
  cases h with
  | refl => exact .inl rfl
  | step _ hstep => exact .inr (mem_states_of_mem_epsilonSuccessors hstep)

/-- Epsilon transitions lead to another state only from a state of the relation. -/
theorem eq_or_source_mem_states {p : Q} (h : EpsilonReachable r p q) : q = p ∨ p ∈ r.states := by
  induction h with
  | refl => exact .inl rfl
  | step _ hstep ih =>
    rcases ih with rfl | hp
    · exact .inr (source_mem_states_of_epsilonSuccessors hstep)
    · exact .inr hp

end Determinize.Relation
