import Determinize.Proofs.Relation.Invariant

/-!
What the queries of a relation answer, as statements about members.

* `mem_edgesFrom_iff`: in a well-formed relation a state has an edge on a symbol exactly if it has
  a target on it; `mem_edgesFromSet_iff` is the same for sets of states.
* The `mem_states` lemmas: sources and targets of transitions of both kinds are states.
-/

namespace Determinize.Relation

variable {Q S : Type} [TotalOrd Q] [TotalOrd S] {r : Relation Q S} {states : StateSet Q}
  {p q : Q} {a : S}

/-! ### Sets of states -/

theorem mem_nextStatesFromSet :
    q ∈ r.nextStatesFromSet states a ↔ ∃ p ∈ states, q ∈ r.nextStates p a :=
  SortedSet.mem_flatMap

theorem mem_edgesFromSet : a ∈ r.edgesFromSet states ↔ ∃ p ∈ states, a ∈ r.edgesFrom p :=
  SortedSet.mem_flatMap

/-! ### Edges and targets -/

theorem WellFormed.mem_edgesFrom_iff (h : r.WellFormed) :
    a ∈ r.edgesFrom q ↔ ∃ p, p ∈ r.nextStates q a := by
  unfold edgesFrom nextStates
  rw [← h.mem_keys_next, h.next_filled.mem_keys_iff]

/-- A symbol can be read in a set exactly if it leads somewhere. -/
theorem WellFormed.mem_edgesFromSet_iff (h : r.WellFormed) :
    a ∈ r.edgesFromSet states ↔ ∃ q, q ∈ r.nextStatesFromSet states a := by
  rw [mem_edgesFromSet]
  constructor
  · rintro ⟨p, hp, ha⟩
    obtain ⟨q, hq⟩ := h.mem_edgesFrom_iff.mp ha
    exact ⟨q, mem_nextStatesFromSet.mpr ⟨p, hp, hq⟩⟩
  · rintro ⟨q, hq⟩
    obtain ⟨p, hp, hpq⟩ := mem_nextStatesFromSet.mp hq
    exact ⟨p, hp, h.mem_edgesFrom_iff.mpr ⟨q, hpq⟩⟩

theorem mem_alphabet_iff : a ∈ r.alphabet ↔ ∃ q, a ∈ r.edgesFrom q := Index.mem_values_iff

theorem mem_alphabet_of_mem_edgesFromSet (h : a ∈ r.edgesFromSet states) : a ∈ r.alphabet := by
  obtain ⟨p, -, ha⟩ := mem_edgesFromSet.mp h
  exact mem_alphabet_iff.mpr ⟨p, ha⟩

/-! ### The states of a relation -/

theorem mem_states_of_mem_nextStates (h : q ∈ r.nextStates p a) : q ∈ r.states := by
  have : q ∈ r.next.values := Index.mem_values_iff.mpr ⟨_, h⟩
  simp only [states, SortedSet.mem_union]
  exact .inl (.inr this)

theorem mem_states_of_mem_epsilonSuccessors (h : q ∈ r.epsilonSuccessors p) : q ∈ r.states := by
  have : q ∈ r.epsilon.values := Index.mem_values_iff.mpr ⟨_, h⟩
  simp only [states, SortedSet.mem_union]
  exact .inr (.inr this)

theorem source_mem_states_of_nextStates (h : q ∈ r.nextStates p a) : p ∈ r.states := by
  have : (p, a) ∈ r.next.keys := Index.mem_keys_of_mem_lookup h
  simp only [states, SortedSet.mem_union, SortedSet.mem_ofList]
  exact .inl (.inl (List.mem_map.mpr ⟨_, this, rfl⟩))

theorem source_mem_states_of_epsilonSuccessors (h : q ∈ r.epsilonSuccessors p) :
    p ∈ r.states := by
  have : p ∈ r.epsilon.keys := Index.mem_keys_of_mem_lookup h
  simp only [states, SortedSet.mem_union, SortedSet.mem_ofList]
  exact .inr (.inl this)

end Determinize.Relation
