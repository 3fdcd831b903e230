import Determinize.Proofs.Relation.Transitions
import Determinize.Proofs.SortedSet.Size

/-!
Bounds for the number of transitions. A relation has no more transitions than lists in which all of
them stand (`Holds.transitions_le`), and no fewer than lists of its transitions without repetitions
(`Holds.le_transitions`).
-/

namespace Determinize.Relation

variable {Q S : Type} [TotalOrd Q] [TotalOrd S] {r : Relation Q S}
  {regular : SortedSet (Q × S × Q)} {silent : SortedSet (Q × Q)}

theorem Holds.transitions_le (h : r.Holds regular silent) (triples : List (Q × S × Q))
    (pairs : List (Q × Q))
    (allTriples : ∀ q a p, p ∈ r.nextStates q a → (q, a, p) ∈ triples)
    (allPairs : ∀ q p, p ∈ r.epsilonSuccessors q → (q, p) ∈ pairs) :
    r.transitions ≤ triples.length + pairs.length := by
  rw [h.transitions_eq]
  refine Nat.add_le_add (SortedSet.size_le_length ?_) (SortedSet.size_le_length ?_)
  · exact fun ⟨q, a, p⟩ hp => allTriples q a p ((h.mem_nextStates q a p).mpr hp)
  · exact fun ⟨q, p⟩ hp => allPairs q p ((h.mem_epsilonSuccessors q p).mpr hp)

theorem Holds.le_transitions (h : r.Holds regular silent) (triples : List (Q × S × Q))
    (pairs : List (Q × Q)) (nodupTriples : triples.Nodup) (nodupPairs : pairs.Nodup)
    (someTriples : ∀ q a p, (q, a, p) ∈ triples → p ∈ r.nextStates q a)
    (somePairs : ∀ q p, (q, p) ∈ pairs → p ∈ r.epsilonSuccessors q) :
    triples.length + pairs.length ≤ r.transitions := by
  rw [h.transitions_eq]
  refine Nat.add_le_add (SortedSet.length_le_size nodupTriples ?_)
    (SortedSet.length_le_size nodupPairs ?_)
  · exact fun ⟨q, a, p⟩ hp => (h.mem_nextStates q a p).mp (someTriples q a p hp)
  · exact fun ⟨q, p⟩ hp => (h.mem_epsilonSuccessors q p).mp (somePairs q p hp)

end Determinize.Relation
