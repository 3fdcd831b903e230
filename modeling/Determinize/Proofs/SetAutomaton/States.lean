import Determinize.Proofs.SetAutomaton.Edges

/-!
How many sets and edges the subset construction produces.

* `Discovered.subset_states`: a discovered set stays among the states of the relation unless the
  relation does not know the start. In that case nothing can be read in the initial set
  (`Discovered.start_mem_states`), and it is the only one (`Discovered.eq_initial`).
* `mem_states_determinize_iff`: the states of the automaton are the discovered sets.
* `size_edges_determinize`: there is one edge for every pair that is worked off.
* `size_states_le_size_edges`: every set but the initial one is the target of an edge.
* `WellFormed.size_states_le` and `WellFormed.size_edges_le` are bounds in terms of the relation.
-/

namespace Determinize

variable {Q S : Type} [TotalOrd Q] [TotalOrd S] {r : Relation Q S} {start : Q}
  {states : StateSet Q} {symbol : S}

/-! ### Staying among the states of the relation -/

/-- If something can be read in a discovered set, then the start is a state of the relation. -/
theorem Discovered.start_mem_states (wf : r.WellFormed) (h : Discovered r start states)
    (hread : symbol ∈ r.edgesFromSet states) : start ∈ r.states := by
  induction h generalizing symbol with
  | initial =>
    obtain ⟨p, hp, hedge⟩ := Relation.mem_edgesFromSet.mp hread
    have reached : EpsilonReachable r start p := Relation.mem_epsilonClosureOf_iff.mp hp
    rcases Relation.eq_or_source_mem_states reached with rfl | hstart
    · obtain ⟨q, hq⟩ := wf.mem_edgesFrom_iff.mp hedge
      exact Relation.source_mem_states_of_nextStates hq
    · exact hstart
  | step _ hread' ih => exact ih hread'

/-- From a start that the relation does not know, only the initial set is discovered. -/
theorem Discovered.eq_initial (wf : r.WellFormed) (h : Discovered r start states)
    (unknown : ¬ start ∈ r.states) : states = r.epsilonClosureOf start := by
  cases h with
  | initial => rfl
  | step hdisc hread => exact absurd (hdisc.start_mem_states wf hread) unknown

/-- From a start that the relation knows, no other states are discovered. -/
theorem Discovered.subset_states (h : Discovered r start states) (known : start ∈ r.states) :
    ∀ q ∈ states, q ∈ r.states := by
  intro q hq
  rcases SortedSet.mem_insert.mp (h.subset q hq) with rfl | hmem
  · exact known
  · exact hmem

namespace Relation

/-! ### The states of the automaton -/

/-- A set is a state of the automaton exactly if it is discovered. -/
theorem mem_states_determinize_iff :
    states ∈ (r.determinize start).states ↔ Discovered r start states := by
  rw [SetAutomaton.states, SortedSet.mem_ofList, List.mem_cons, List.mem_flatMap]
  constructor
  · rintro (rfl | ⟨e, he, hmem⟩)
    · exact .initial
    · obtain ⟨hdisc, hread, htarget⟩ := mem_edges_determinize_iff.mp he
      rcases List.mem_cons.mp hmem with rfl | hmem
      · exact hdisc
      · rw [List.mem_singleton.mp hmem, htarget]
        exact .step hdisc hread
  · intro h
    cases h with
    | initial => exact .inl rfl
    | @step source symbol hdisc hread =>
      refine .inr ⟨r.edgeOf (source, symbol), ?_, ?_⟩
      · exact mem_edges_determinize_iff.mpr ⟨hdisc, hread, rfl⟩
      · exact List.mem_cons_of_mem _ List.mem_cons_self

/-! ### One edge for every pair -/

theorem nodup_explored (r : Relation Q S) (start : Q) : (r.explored start).Nodup :=
  (consistent_explored r start).nodup

theorem map_pair_discoveries (r : Relation Q S) (start : Q) :
    ((r.discoveries start).map fun e => (e.source, e.symbol)) = r.explored start := by
  rw [discoveries, List.map_map]
  exact List.map_id _

theorem nodup_discoveries (r : Relation Q S) (start : Q) : (r.discoveries start).Nodup := by
  have distinct := nodup_explored r start
  rw [← map_pair_discoveries] at distinct
  exact .of_map _ distinct

theorem size_edges_determinize (r : Relation Q S) (start : Q) :
    (r.determinize start).edges.size = (r.discoveries start).length :=
  SortedSet.size_ofList_of_nodup (nodup_discoveries r start)

/-- There is at most one set more than there are edges. -/
theorem size_states_le_size_edges (r : Relation Q S) (start : Q) :
    (r.determinize start).states.size ≤ (r.determinize start).edges.size + 1 := by
  let targets := (r.determinize start).edges.toList.map Edge.target
  have listed : ∀ states ∈ (r.determinize start).states,
      states ∈ (r.determinize start).initial :: targets := by
    intro states hs
    cases mem_states_determinize_iff.mp hs with
    | initial => exact List.mem_cons_self
    | @step source symbol hdisc hread =>
      refine List.mem_cons_of_mem _ (List.mem_map.mpr ⟨r.edgeOf (source, symbol), ?_, rfl⟩)
      exact mem_edges_determinize_iff.mpr ⟨hdisc, hread, rfl⟩
  have hlength := SortedSet.size_le_length listed
  rw [List.length_cons, List.length_map] at hlength
  exact hlength

/-! ### Bounds in terms of the relation -/

/-- There are no more sets than the states of the relation have subsets. -/
theorem WellFormed.size_states_le (wf : r.WellFormed) (start : Q) :
    (r.determinize start).states.size ≤ 2 ^ r.states.size := by
  by_cases known : start ∈ r.states
  · have within : ∀ states ∈ (r.determinize start).states, states ∈ r.states.subsets := by
      intro states hs
      have hdisc := mem_states_determinize_iff.mp hs
      exact SortedSet.mem_subsets (hdisc.subset_states known)
    rw [← SortedSet.length_subsets]
    exact SortedSet.size_le_length within
  · have only : ∀ states ∈ (r.determinize start).states, states ∈ [r.epsilonClosureOf start] := by
      intro states hs
      have hdisc := mem_states_determinize_iff.mp hs
      exact List.mem_singleton.mpr (hdisc.eq_initial wf known)
    exact Nat.le_trans (SortedSet.size_le_length only) Nat.one_le_two_pow

/-- A pair is worked off only if its set is a nonempty set of states of the relation. -/
theorem WellFormed.mem_product_of_mem_explored (wf : r.WellFormed) {pair : StateSet Q × S}
    (h : pair ∈ r.explored start) :
    pair ∈ r.states.nonemptySubsets.product r.alphabet.toList := by
  obtain ⟨hdisc, hread⟩ := mem_explored_iff.mp h
  have within : ∀ q ∈ pair.1, q ∈ r.states :=
    hdisc.subset_states (hdisc.start_mem_states wf hread)
  refine List.mem_product.mpr ⟨?_, mem_alphabet_of_mem_edgesFromSet hread⟩
  exact SortedSet.mem_nonemptySubsets within (hdisc.ne_empty wf)

/-- There are no more edges than nonempty sets of states have symbols to be read. -/
theorem WellFormed.size_edges_le (wf : r.WellFormed) (start : Q) :
    (r.determinize start).edges.size ≤ (2 ^ r.states.size - 1) * r.alphabet.size := by
  have sub : r.explored start ⊆ r.states.nonemptySubsets.product r.alphabet.toList := by
    intro pair h
    exact wf.mem_product_of_mem_explored h
  calc (r.determinize start).edges.size
      = (r.explored start).length := by
        rw [size_edges_determinize, discoveries, List.length_map]
    _ ≤ (r.states.nonemptySubsets.product r.alphabet.toList).length :=
        ((nodup_explored r start).subperm sub).length_le
    _ = r.states.nonemptySubsets.length * r.alphabet.size := List.length_product ..
    _ = (2 ^ r.states.size - 1) * r.alphabet.size := by rw [SortedSet.length_nonemptySubsets]

end Relation

end Determinize
