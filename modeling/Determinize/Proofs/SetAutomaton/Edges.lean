import Determinize.Proofs.Relation.Closure
import Determinize.SetAutomaton.Construction
import Mathlib.Data.List.ProdSigma

/-!
The pairs that the subset construction works off, and the edges that it finds.

* `Discovered.subset`: every discovered set consists of `start` and of states of the relation, and
  `encloses_pairStep` concludes that finitely many pairs enclose the search, no more than its
  limit. So `consistent_explored` has the invariant of a search that has ended.
* `mem_explored_iff`: a pair is worked off exactly if its set is discovered and its symbol can be
  read in it. `mem_edges_determinize_iff` is the same for edges.
* `edges_determinize_exact`: there is one edge for every pair of a discovered set and a symbol
  that can be read in it, and there are no other edges.
-/

namespace Determinize

variable {Q S : Type} [TotalOrd Q] [TotalOrd S] {r : Relation Q S} {start : Q}
  {states : StateSet Q}

/-! ### Discovered sets -/

theorem Relation.subset_stepSet_states {symbol : S} {q : Q} (h : q ∈ r.stepSet states symbol) :
    q ∈ r.states := by
  obtain ⟨p, hp, hpq⟩ := Relation.mem_epsilonClosure_iff.mp h
  obtain ⟨source, -, hstep⟩ := Relation.mem_nextStatesFromSet.mp hp
  rcases Relation.eq_or_mem_states hpq with rfl | hq
  · exact Relation.mem_states_of_mem_nextStates hstep
  · exact hq

theorem Relation.epsilonClosure_stepSet (states : StateSet Q) (symbol : S) :
    r.epsilonClosure (r.stepSet states symbol) = r.stepSet states symbol :=
  Relation.epsilonClosure_idem

/-- A discovered set consists of the start and of states of the relation. -/
theorem Discovered.subset (h : Discovered r start states) :
    ∀ q ∈ states, q ∈ r.states.insert start := by
  intro q hq
  rw [SortedSet.mem_insert]
  cases h with
  | initial => exact Relation.eq_or_mem_states (Relation.mem_epsilonClosureOf_iff.mp hq)
  | step _ _ => exact .inr (Relation.subset_stepSet_states hq)

/-- A discovered set is its own closure. -/
theorem Discovered.closed (h : Discovered r start states) : r.epsilonClosure states = states := by
  cases h with
  | initial => exact Relation.epsilonClosure_epsilonClosureOf start
  | step _ _ => exact Relation.epsilonClosure_stepSet _ _

theorem Relation.WellFormed.stepSet_ne_empty (wf : r.WellFormed) {symbol : S}
    (h : symbol ∈ r.edgesFromSet states) : r.stepSet states symbol ≠ ∅ := by
  obtain ⟨q, hq⟩ := wf.mem_edgesFromSet_iff.mp h
  exact Relation.epsilonClosure_ne_empty (SortedSet.ne_empty_of_mem hq)

/-- No discovered set is empty. -/
theorem Discovered.ne_empty (wf : r.WellFormed) (h : Discovered r start states) :
    states ≠ ∅ := by
  cases h with
  | initial => exact SortedSet.ne_empty_of_mem (Relation.mem_epsilonClosureOf_iff.mpr .refl)
  | step _ hread => exact wf.stepSet_ne_empty hread

namespace Relation

/-! ### The search for pairs -/

/-- The pairs that wait once `pair` has been worked off. -/
def pairStep (r : Relation Q S) (pair : StateSet Q × S) : List (StateSet Q × S) :=
  r.pairsOf (r.stepSet pair.1 pair.2)

theorem mem_pairsOf {pair : StateSet Q × S} :
    pair ∈ r.pairsOf states ↔ pair.1 = states ∧ pair.2 ∈ r.edgesFromSet states := by
  obtain ⟨source, symbol⟩ := pair
  rw [pairsOf, List.mem_map]
  constructor
  · rintro ⟨a, ha, heq⟩
    cases heq
    exact ⟨rfl, ha⟩
  · rintro ⟨rfl, ha⟩
    exact ⟨symbol, ha, rfl⟩

/-- All pairs of a subset of `states` and a symbol of the alphabet. -/
def pairsWithin (r : Relation Q S) (states : StateSet Q) : List (StateSet Q × S) :=
  states.subsets.product r.alphabet.toList

theorem length_pairsWithin (r : Relation Q S) (states : StateSet Q) :
    (r.pairsWithin states).length = 2 ^ states.size * r.alphabet.size :=
  (List.length_product ..).trans (congrArg (· * _) (SortedSet.length_subsets states))

/-- The pairs of a set are among those within any larger set. -/
theorem mem_pairsWithin_of_mem_pairsOf {larger : StateSet Q} {pair : StateSet Q × S}
    (sub : ∀ q ∈ states, q ∈ larger) (h : pair ∈ r.pairsOf states) :
    pair ∈ r.pairsWithin larger := by
  obtain ⟨hsource, hsymbol⟩ := mem_pairsOf.mp h
  refine List.mem_product.mpr ⟨SortedSet.mem_subsets ?_, mem_alphabet_of_mem_edgesFromSet hsymbol⟩
  rw [hsource]
  exact sub

theorem encloses_pairStep (r : Relation Q S) (start : Q) :
    Search.Encloses r.pairStep (r.pairsOf (r.epsilonClosureOf start))
      (r.pairsWithin (r.states.insert start)) where
  starts_mem _ hn := mem_pairsWithin_of_mem_pairsOf Discovered.initial.subset hn
  successors_mem _ _ _ hn := by
    refine mem_pairsWithin_of_mem_pairsOf ?_ hn
    intro q hq
    exact SortedSet.mem_insert.mpr (.inr (subset_stepSet_states hq))

/-- The limit of the construction is the number of pairs that there can be. -/
theorem length_encloses_pairStep (r : Relation Q S) (start : Q) :
    (r.pairsWithin (r.states.insert start)).length ≤
      2 ^ (r.states.insert start).size * r.alphabet.size :=
  Nat.le_of_eq (length_pairsWithin r _)

theorem consistent_explored (r : Relation Q S) (start : Q) :
    Search.Consistent r.pairStep (r.pairsOf (r.epsilonClosureOf start))
      ⟨[], r.explored start⟩ :=
  Search.consistent_depthFirst (encloses_pairStep r start) (length_encloses_pairStep r start)

/-! ### What is worked off -/

theorem reached_pair_of_discovered (h : Discovered r start states) {symbol : S}
    (hread : symbol ∈ r.edgesFromSet states) :
    Search.Reached r.pairStep (r.pairsOf (r.epsilonClosureOf start)) (states, symbol) := by
  induction h generalizing symbol with
  | initial => exact .start (mem_pairsOf.mpr ⟨rfl, hread⟩)
  | step _ hread' ih => exact .step (ih hread') (mem_pairsOf.mpr ⟨rfl, hread⟩)

theorem reached_pairStep_iff {pair : StateSet Q × S} :
    Search.Reached r.pairStep (r.pairsOf (r.epsilonClosureOf start)) pair ↔
      Discovered r start pair.1 ∧ pair.2 ∈ r.edgesFromSet pair.1 := by
  constructor
  · intro h
    induction h with
    | start hs =>
      obtain ⟨hsource, hread⟩ := mem_pairsOf.mp hs
      rw [hsource]
      exact ⟨.initial, hread⟩
    | step _ hstep ih =>
      obtain ⟨hsource, hread⟩ := mem_pairsOf.mp hstep
      rw [hsource]
      exact ⟨.step ih.1 ih.2, hread⟩
  · rintro ⟨hdisc, hread⟩
    exact reached_pair_of_discovered hdisc hread

/-- The construction works off exactly the readable pairs of discovered sets. -/
theorem mem_explored_iff {pair : StateSet Q × S} :
    pair ∈ r.explored start ↔ Discovered r start pair.1 ∧ pair.2 ∈ r.edgesFromSet pair.1 :=
  (consistent_explored r start).mem_visited_iff.trans reached_pairStep_iff

theorem mem_discoveries_iff {e : Edge Q S} :
    e ∈ r.discoveries start ↔
      (e.source, e.symbol) ∈ r.explored start ∧ e.target = r.stepSet e.source e.symbol := by
  rw [discoveries, List.mem_map]
  constructor
  · rintro ⟨pair, hpair, rfl⟩
    exact ⟨hpair, rfl⟩
  · rintro ⟨hpair, htarget⟩
    refine ⟨_, hpair, ?_⟩
    rw [edgeOf, ← htarget]

/-! ### The edges -/

theorem mem_edges_determinize_iff {e : Edge Q S} :
    e ∈ (r.determinize start).edges ↔
      Discovered r start e.source ∧ e.symbol ∈ r.edgesFromSet e.source ∧
        e.target = r.stepSet e.source e.symbol := by
  rw [determinize, SortedSet.mem_ofList, mem_discoveries_iff, mem_explored_iff, and_assoc]

/-- **The edges are exact.** They lead from the discovered sets, on the symbols that can be read
there, to the closures of what is reached. A set has one edge on a symbol if it is discovered and
the symbol can be read in it, and otherwise it has none. -/
theorem edges_determinize_exact (r : Relation Q S) (start : Q) :
    (∀ source symbol target, ⟨source, symbol, target⟩ ∈ (r.determinize start).edges ↔
      Discovered r start source ∧ symbol ∈ r.edgesFromSet source ∧
        target = r.epsilonClosure (r.nextStatesFromSet source symbol)) ∧
    (∀ source symbol, (∃! target, ⟨source, symbol, target⟩ ∈ (r.determinize start).edges) ↔
      Discovered r start source ∧ symbol ∈ r.edgesFromSet source) ∧
    ∀ e ∈ (r.determinize start).edges, Discovered r start e.source := by
  refine ⟨fun source symbol target => mem_edges_determinize_iff, ?_, ?_⟩
  · intro source symbol
    constructor
    · rintro ⟨target, hedge, -⟩
      obtain ⟨hdisc, hread, -⟩ := mem_edges_determinize_iff.mp hedge
      exact ⟨hdisc, hread⟩
    · rintro ⟨hdisc, hread⟩
      refine ⟨r.stepSet source symbol, mem_edges_determinize_iff.mpr ⟨hdisc, hread, rfl⟩, ?_⟩
      intro target hedge
      exact (mem_edges_determinize_iff.mp hedge).2.2
  · intro e he
    exact (mem_edges_determinize_iff.mp he).1

/-- In the demo the initial set has an edge on `b`, so it is discovered. -/
theorem edges_determinize_exact_demo :
    ⟨.ofList [1, 2, 3], 'b', .ofList [4]⟩ ∈ (Demo.relation.determinize Demo.start).edges ∧
      Discovered Demo.relation Demo.start (.ofList [1, 2, 3]) := by
  have edge : ⟨.ofList [1, 2, 3], 'b', .ofList [4]⟩ ∈
      (Demo.relation.determinize Demo.start).edges := by decide +kernel
  exact ⟨edge, (edges_determinize_exact Demo.relation Demo.start).2.2 _ edge⟩

end Relation

end Determinize
