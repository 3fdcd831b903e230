import Determinize.Proofs.SetAutomaton.Language
import Determinize.Proofs.SetAutomaton.States

/-!
The words that lead to the states of an automaton.

* `SetAutomaton.run?_append`: a run on a concatenation is two runs one after the other.
  `SetAutomaton.mem_states_of_run?`: whatever is reached is a state.
* `SetAutomaton.eq_of_shortest`: a shortest word to a set comes by no set twice, since what it reads
  between two visits could be left out. So it has fewer symbols than the automaton has states
  (`SetAutomaton.exists_short_word`).
* `Relation.mem_states_iff_exists_word`: after the subset construction every state is reached by some
  word, since this holds of the discovered sets.
* `Relation.access_words` collects this and says which symbols the automaton has.
-/

namespace Determinize

variable {Q S : Type} [TotalOrd Q] [TotalOrd S]

namespace SetAutomaton

variable {a : SetAutomaton Q S} {word : List S} {reached : StateSet Q}

/-! ### Runs in any automaton -/

theorem run?_append (a : SetAutomaton Q S) (word rest : List S) :
    a.run? (word ++ rest) = (a.run? word).bind fun reached => rest.foldlM a.successor? reached :=
  List.foldlM_append ..

theorem run?_concat (a : SetAutomaton Q S) (word : List S) (symbol : S) :
    a.run? (word ++ [symbol]) = (a.run? word).bind fun reached => a.successor? reached symbol := by
  simp [run?_append]

/-- A run leads to states of the automaton. -/
theorem mem_states_of_run? (h : a.run? word = some reached) : reached ∈ a.states := by
  rw [states, SortedSet.mem_ofList, List.mem_cons, List.mem_flatMap]
  rcases List.eq_nil_or_concat' word with rfl | ⟨before, symbol, rfl⟩
  · cases h
    exact .inl rfl
  · rw [run?_concat] at h
    obtain ⟨source, -, step⟩ := Option.bind_eq_some_iff.mp h
    exact .inr ⟨_, mem_edges_of_successor? step, List.mem_cons_of_mem _ List.mem_cons_self⟩

/-- What a word reads between two visits of the same set can be left out. -/
theorem run?_cut {i j : Nat} (same : a.run? (word.take i) = a.run? (word.take j)) :
    a.run? (word.take i ++ word.drop j) = a.run? word := by
  rw [run?_append, same, ← run?_append, List.take_append_drop]

theorem not_lt_of_shortest (shortest : ∀ w, a.run? w = a.run? word → word.length ≤ w.length)
    {i j : Nat} (hj : j ≤ word.length)
    (same : a.run? (word.take i) = a.run? (word.take j)) : ¬ i < j := by
  intro less
  have length := shortest _ (run?_cut same)
  rw [List.length_append, List.length_take, List.length_drop] at length
  omega

/-- A shortest word to a set comes by no set twice. -/
theorem eq_of_shortest (shortest : ∀ w, a.run? w = a.run? word → word.length ≤ w.length)
    {i j : Nat} (hi : i ≤ word.length) (hj : j ≤ word.length)
    (same : a.run? (word.take i) = a.run? (word.take j)) : i = j := by
  have notBefore := not_lt_of_shortest shortest hj same
  have notAfter := not_lt_of_shortest shortest hi same.symm
  omega

/-- The sets that a shortest word comes by are different states, so it is short. -/
theorem length_lt_of_shortest (h : a.run? word = some reached)
    (shortest : ∀ w, a.run? w = a.run? word → word.length ≤ w.length) :
    word.length < a.states.size := by
  let visits := (List.range (word.length + 1)).map fun i => a.run? (word.take i)
  have distinct : visits.Nodup := by
    refine (List.nodup_range).map_on ?_
    intro i hi j hj same
    rw [List.mem_range] at hi hj
    exact eq_of_shortest shortest (by omega) (by omega) same
  have visited : visits ⊆ a.states.toList.map some := by
    intro visit hvisit
    obtain ⟨i, -, rfl⟩ := List.mem_map.mp hvisit
    -- the word could not be read if one of its beginnings could not
    cases hrun : a.run? (word.take i) with
    | none =>
      rw [← List.take_append_drop i word, run?_append, hrun] at h
      cases h
    | some state => exact List.mem_map_of_mem (mem_states_of_run? hrun)
  have fits := (distinct.subperm visited).length_le
  rw [List.length_map, List.length_map, List.length_range] at fits
  exact fits

/-- What is reached at all is reached by a word with fewer symbols than there are states. -/
theorem exists_short_word (h : a.run? word = some reached) :
    ∃ short, short.length < a.states.size ∧ a.run? short = some reached := by
  classical
  have read : ∃ n w, a.run? w = some reached ∧ w.length = n := ⟨_, word, h, rfl⟩
  obtain ⟨short, hshort, length⟩ := Nat.find_spec read
  refine ⟨short, length_lt_of_shortest hshort ?_, hshort⟩
  intro w same
  rw [length]
  exact Nat.find_min' read ⟨w, same.trans hshort, rfl⟩

end SetAutomaton

namespace Relation

variable {r : Relation Q S} {start : Q} {states : StateSet Q}

/-! ### Runs after the subset construction -/

/-- Some word leads to each discovered set. -/
theorem exists_word_of_discovered (h : Discovered r start states) :
    ∃ word, (r.determinize start).run? word = some states := by
  induction h with
  | initial => exact ⟨[], rfl⟩
  | @step source symbol hdisc hread ih =>
    obtain ⟨word, run⟩ := ih
    refine ⟨word ++ [symbol], ?_⟩
    rw [SetAutomaton.run?_concat, run]
    exact successor?_of_discovered hdisc hread

/-- The states of the automaton are what words lead to. -/
theorem mem_states_iff_exists_word :
    states ∈ (r.determinize start).states ↔
      ∃ word, (r.determinize start).run? word = some states := by
  constructor
  · intro state
    exact exists_word_of_discovered (mem_states_determinize_iff.mp state)
  · rintro ⟨word, run⟩
    exact SetAutomaton.mem_states_of_run? run

/-- The automaton has the symbols that can be read in one of its states. -/
theorem mem_alphabet_determinize_iff {symbol : S} :
    symbol ∈ (r.determinize start).alphabet ↔
      ∃ states ∈ (r.determinize start).states, symbol ∈ r.edgesFromSet states := by
  rw [SetAutomaton.alphabet, SortedSet.mem_map]
  constructor
  · rintro ⟨e, he, rfl⟩
    obtain ⟨hdisc, hread, -⟩ := mem_edges_determinize_iff.mp he
    exact ⟨e.source, mem_states_determinize_iff.mpr hdisc, hread⟩
  · rintro ⟨states, state, hread⟩
    have hdisc := mem_states_determinize_iff.mp state
    exact ⟨r.edgeOf (states, symbol), mem_edges_determinize_iff.mpr ⟨hdisc, hread, rfl⟩, rfl⟩

/-- **Every state has an access word.** The states of the automaton are exactly the sets that words
lead to, and a word with fewer symbols than there are states is enough. Its symbols are exactly those
on which a member of such a set has a transition. -/
theorem access_words (h : r.Reachable) (start : Q) :
    (∀ states, states ∈ (r.determinize start).states ↔
      ∃ word, (r.determinize start).run? word = some states) ∧
    (∀ states ∈ (r.determinize start).states, ∃ word : List S,
      word.length ≤ (r.determinize start).states.size - 1 ∧
        (r.determinize start).run? word = some states) ∧
    ∀ symbol, symbol ∈ (r.determinize start).alphabet ↔
      ∃ word reached, (r.determinize start).run? word = some reached ∧
        ∃ q ∈ reached, ∃ p, p ∈ r.nextStates q symbol := by
  have wf := h.wellFormed
  refine ⟨fun states => mem_states_iff_exists_word, ?_, ?_⟩
  · intro states state
    obtain ⟨word, run⟩ := mem_states_iff_exists_word.mp state
    obtain ⟨short, length, runShort⟩ := SetAutomaton.exists_short_word run
    exact ⟨short, by omega, runShort⟩
  · intro symbol
    simp only [mem_alphabet_determinize_iff, mem_edgesFromSet, wf.mem_edgesFrom_iff,
      mem_states_iff_exists_word]
    constructor
    · rintro ⟨reached, ⟨word, run⟩, leaves⟩
      exact ⟨word, reached, run, leaves⟩
    · rintro ⟨word, reached, run, leaves⟩
      exact ⟨reached, ⟨word, run⟩, leaves⟩

/-- The demo's automaton has four states, so three symbols are enough for each of them. -/
theorem access_words_demo :
    .ofList [5, 6, 7] ∈ (Demo.relation.determinize Demo.start).states ∧
    (∃ word : List Char, word.length ≤ 3 ∧
      (Demo.relation.determinize Demo.start).run? word = some (.ofList [5, 6, 7])) ∧
    ∃ word reached, (Demo.relation.determinize Demo.start).run? word = some reached ∧
      ∃ q ∈ reached, ∃ p, p ∈ Demo.relation.nextStates q 'c' := by
  obtain ⟨-, short, symbols⟩ := access_words Demo.reachable_relation Demo.start
  have state : .ofList [5, 6, 7] ∈ (Demo.relation.determinize Demo.start).states := by
    decide +kernel
  have four : (Demo.relation.determinize Demo.start).states.size = 4 := by decide +kernel
  obtain ⟨word, length, run⟩ := short _ state
  rw [four] at length
  exact ⟨state, ⟨word, length, run⟩, (symbols 'c').mp (by decide +kernel)⟩

end Relation

end Determinize
