import Determinize.Proofs.SetAutomaton.Edges

/-!
What holds of a relation after any history.

* `WellFormed.epsilon_not_mem_edgesFromSet` and its neighbours: the epsilon symbol shows up in no
  answer of a well-formed relation, and on no edge of an automaton that is made from it.
* `consistent_after`: whatever calls a program makes, each of its relations is consistent in its
  indices, its count and its epsilon symbol.
-/

namespace Determinize

namespace Relation

variable {Q S : Type} [TotalOrd Q] [TotalOrd S] {r : Relation Q S} {symbol : S}

/-! ### The epsilon symbol does not show -/

theorem WellFormed.epsilon_not_mem_edgesFrom (wf : r.WellFormed)
    (h : r.epsilonSymbol = some symbol) (q : Q) : ¬ symbol ∈ r.edgesFrom q := by
  intro hread
  exact wf.not_epsilon q symbol hread h

theorem WellFormed.epsilon_not_mem_keys_next (wf : r.WellFormed)
    (h : r.epsilonSymbol = some symbol) (q : Q) : ¬ (q, symbol) ∈ r.next.keys := by
  rw [wf.mem_keys_next]
  exact wf.epsilon_not_mem_edgesFrom h q

theorem WellFormed.epsilon_not_mem_edges (wf : r.WellFormed)
    (h : r.epsilonSymbol = some symbol) : ∀ e ∈ r.edges.entries, ¬ symbol ∈ e.2 := by
  intro e he
  rw [← Index.lookup_of_mem_entries he]
  exact wf.epsilon_not_mem_edgesFrom h e.1

theorem WellFormed.epsilon_not_mem_edgesFromSet (wf : r.WellFormed)
    (h : r.epsilonSymbol = some symbol) (states : StateSet Q) :
    ¬ symbol ∈ r.edgesFromSet states := by
  intro hread
  obtain ⟨q, -, hq⟩ := mem_edgesFromSet.mp hread
  exact wf.epsilon_not_mem_edgesFrom h q hq

theorem WellFormed.epsilon_not_mem_alphabet (wf : r.WellFormed)
    (h : r.epsilonSymbol = some symbol) : ¬ symbol ∈ r.alphabet := by
  intro hread
  obtain ⟨q, hq⟩ := mem_alphabet_iff.mp hread
  exact wf.epsilon_not_mem_edgesFrom h q hq

theorem WellFormed.epsilon_ne_symbol (wf : r.WellFormed) (h : r.epsilonSymbol = some symbol)
    (start : Q) : ∀ e ∈ (r.determinize start).edges, e.symbol ≠ symbol := by
  intro e he same
  obtain ⟨-, hread, -⟩ := mem_edges_determinize_iff.mp he
  rw [same] at hread
  exact wf.epsilon_not_mem_edgesFromSet h e.source hread

/-! ### All histories -/

/-- **Relations stay consistent.** After any calls, each relation that a program holds has targets
on a symbol exactly where the symbol is an edge, stores nothing empty, has counted what it stores,
and shows its epsilon symbol nowhere. -/
theorem consistent_after (calls : List (Call Q S)) (r : Relation Q S)
    (h : r ∈ Session.after calls) :
    (∀ q a, (q, a) ∈ r.next.keys ↔ a ∈ r.edges.lookup q) ∧
    (∀ e ∈ r.next.entries, e.2 ≠ ∅) ∧ (∀ e ∈ r.epsilon.entries, e.2 ≠ ∅) ∧
    (∀ e ∈ r.edges.entries, e.2 ≠ ∅) ∧
    r.transitions = (r.next.entries.map fun e => e.2.size).sum +
      (r.epsilon.entries.map fun e => e.2.size).sum ∧
    ∀ symbol, r.epsilonSymbol = some symbol →
      (∀ q, ¬ (q, symbol) ∈ r.next.keys) ∧ (∀ e ∈ r.edges.entries, ¬ symbol ∈ e.2) ∧
      (∀ q, ¬ symbol ∈ r.edgesFrom q) ∧ (∀ states, ¬ symbol ∈ r.edgesFromSet states) ∧
      ¬ symbol ∈ r.alphabet ∧
      ∀ start, ∀ e ∈ (r.determinize start).edges, e.symbol ≠ symbol := by
  have wf : r.WellFormed := (Session.constructible_of_mem h).wellFormed
  have counted := wf.transitions_eq
  rw [Index.size_eq_sum, Index.size_eq_sum] at counted
  refine ⟨wf.mem_keys_next, wf.next_filled, wf.epsilon_filled, wf.edges_filled,
    counted, ?_⟩
  intro symbol hsymbol
  exact ⟨wf.epsilon_not_mem_keys_next hsymbol, wf.epsilon_not_mem_edges hsymbol,
    wf.epsilon_not_mem_edgesFrom hsymbol, wf.epsilon_not_mem_edgesFromSet hsymbol,
    wf.epsilon_not_mem_alphabet hsymbol, wf.epsilon_ne_symbol hsymbol⟩

end Relation

/-- A program that chooses a space for epsilon, clones the relation, is refused another choice
for the clone and goes on with it. -/
def Demo.calls : List (Call Nat Char) := [
  .withoutEpsilon, .edit 0 (.setEpsilon ' '), .edit 0 (.add ⟨1, ' ', 2⟩), .clone 0,
  .edit 1 (.setEpsilon 'a'), .edit 1 (.add ⟨2, 'a', 1⟩), .edit 1 (.add ⟨2, 'a', 1⟩)]

/-- The clone keeps the space, which is not in its alphabet, and counts two transitions. -/
theorem Relation.consistent_after_demo :
    ∃ r ∈ Session.after Demo.calls, r.epsilonSymbol = some ' ' ∧ ¬ ' ' ∈ r.alphabet ∧
      2 = (r.next.entries.map fun e => e.2.size).sum +
        (r.epsilon.entries.map fun e => e.2.size).sum := by
  let r : Relation Nat Char := Demo.empty.replay [
    .add ⟨1, ' ', 2⟩, .setEpsilon 'a', .add ⟨2, 'a', 1⟩, .add ⟨2, 'a', 1⟩]
  have held : r ∈ Session.after Demo.calls := by
    exact List.mem_of_getElem? (show (Session.after Demo.calls)[1]? = some r from rfl)
  obtain ⟨-, -, -, -, counted, hidden⟩ := Relation.consistent_after Demo.calls r held
  exact ⟨r, held, rfl, (hidden ' ' rfl).2.2.2.2.1, counted⟩

end Determinize
