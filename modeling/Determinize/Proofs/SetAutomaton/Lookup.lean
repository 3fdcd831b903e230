import Determinize.Proofs.SetAutomaton.States
import Determinize.Proofs.SetAutomaton.Successor

/-!
What the look-up of a successor answers.

* `SetAutomaton.successor?_eq_some_iff`: in any set of edges, the look-up answers the smallest of
  the targets that a source has on a symbol. So a set of edges that is not deterministic is read as
  if it had the first edge only.
* `Relation.eq_of_mem_edges`: the subset construction gives a source one edge on a symbol. So there
  the look-up answers the target of every edge (`Relation.successor?_eq_some_iff_mem`), and in a
  state of the automaton it answers exactly on the symbols that can be read there
  (`Relation.isSome_successor?_iff`).
* `successor?_exact` says both, of any automaton and of a constructed one.
-/

namespace Determinize

variable {Q S : Type} [TotalOrd Q] [TotalOrd S]

namespace SetAutomaton

variable {a : SetAutomaton Q S} {source target : StateSet Q} {symbol : S}

/-! ### Any set of edges -/

/-- The look-up answers the smallest target. -/
theorem successor?_eq_some_iff : a.successor? source symbol = some target ↔
    (⟨source, symbol, target⟩ : Edge Q S) ∈ a.edges ∧
      ∀ other, (⟨source, symbol, other⟩ : Edge Q S) ∈ a.edges →
        other = target ∨ Before target other := by
  constructor
  · intro found
    refine ⟨mem_edges_of_successor? found, ?_⟩
    intro other hother
    obtain ⟨least, answered, -, notBelow⟩ := exists_successor? hother
    obtain rfl : least = target := Option.some.inj (answered.symm.trans found)
    rcases before_trichotomy other least with below | same | above
    · exact absurd below notBelow
    · exact .inl same
    · exact .inr above
  · rintro ⟨edge, least⟩
    obtain ⟨found, answered, hfound, notBelow⟩ := exists_successor? edge
    rcases least found hfound with same | above
    · rw [answered, same]
    · exact absurd above notBelow

end SetAutomaton

namespace Relation

variable {r : Relation Q S} {start : Q} {source target : StateSet Q} {symbol : S}

/-! ### The edges of a construction -/

/-- A source has one edge on a symbol. -/
theorem eq_of_mem_edges {e f : Edge Q S} (he : e ∈ (r.determinize start).edges)
    (hf : f ∈ (r.determinize start).edges) (sameSource : e.source = f.source)
    (sameSymbol : e.symbol = f.symbol) : e = f := by
  have target : e.target = f.target := by
    rw [(mem_edges_determinize_iff.mp he).2.2, (mem_edges_determinize_iff.mp hf).2.2, sameSource,
      sameSymbol]
  apply Edge.triple_inj
  rw [Edge.triple, sameSource, sameSymbol, target, Edge.triple]

theorem successor?_eq_some_iff_mem :
    (r.determinize start).successor? source symbol = some target ↔
      (⟨source, symbol, target⟩ : Edge Q S) ∈ (r.determinize start).edges := by
  rw [SetAutomaton.successor?_eq_some_iff]
  constructor
  · rintro ⟨edge, -⟩
    exact edge
  · intro edge
    refine ⟨edge, fun other hother => .inl ?_⟩
    exact congrArg Edge.target (eq_of_mem_edges hother edge rfl rfl)

/-- In a state of the automaton the look-up answers on the symbols that can be read there. -/
theorem isSome_successor?_iff (state : source ∈ (r.determinize start).states) :
    ((r.determinize start).successor? source symbol).isSome = true ↔
      symbol ∈ r.edgesFromSet source := by
  have hdisc : Discovered r start source := mem_states_determinize_iff.mp state
  by_cases hread : symbol ∈ r.edgesFromSet source
  · rw [successor?_of_discovered hdisc hread]
    exact iff_of_true rfl hread
  · rw [successor?_of_not_mem hread]
    exact iff_of_false (by simp) hread

end Relation

/-! ### The look-up -/

/-- **The look-up of a successor is exact.** In any set of edges it answers the smallest target that
the source has on the symbol, and nothing exactly if there is none. After a subset construction a
source has one edge on a symbol, the look-up answers its target, and in a state of the automaton it
answers exactly on the symbols that can be read there. -/
theorem successor?_exact :
    (∀ (a : SetAutomaton Q S) (source : StateSet Q) (symbol : S),
      (∀ target, a.successor? source symbol = some target ↔
        ⟨source, symbol, target⟩ ∈ a.edges ∧
          ∀ other, ⟨source, symbol, other⟩ ∈ a.edges → other = target ∨ Before target other) ∧
      (a.successor? source symbol = none ↔ ∀ target, ¬ ⟨source, symbol, target⟩ ∈ a.edges)) ∧
    ∀ (r : Relation Q S) (start : Q),
      (∀ source symbol target, (r.determinize start).successor? source symbol = some target ↔
        (r.determinize start).edges.contains ⟨source, symbol, target⟩ = true) ∧
      (∀ e ∈ (r.determinize start).edges, ∀ f ∈ (r.determinize start).edges,
        e.source = f.source → e.symbol = f.symbol → e = f) ∧
      ∀ source ∈ (r.determinize start).states, ∀ symbol,
        ((r.determinize start).successor? source symbol).isSome = true ↔
          symbol ∈ r.edgesFromSet source := by
  refine ⟨fun a source symbol => ⟨fun target => ?_, ?_⟩, fun r start => ⟨?_, ?_, ?_⟩⟩
  · exact SetAutomaton.successor?_eq_some_iff
  · exact SetAutomaton.successor?_eq_none_iff
  · intro source symbol target
    rw [SortedSet.contains_iff]
    exact Relation.successor?_eq_some_iff_mem
  · intro e he f hf sameSource sameSymbol
    exact Relation.eq_of_mem_edges he hf sameSource sameSymbol
  · intro source state symbol
    exact Relation.isSome_successor?_iff state

/-- Edges of which two have the same source and symbol. The others differ from them in the symbol
only, and one of these leads to the empty set. -/
def Demo.branching : SetAutomaton Nat Char where
  initial := .ofList [1]
  edges := .ofList [
    ⟨.ofList [1], 'b', .ofList [3]⟩, ⟨.ofList [1], 'b', .ofList [2, 5]⟩,
    ⟨.ofList [1], 'a', .ofList [9]⟩, ⟨.ofList [1], 'c', ∅⟩]

/-- Of two targets the look-up answers the smaller one. In the demo automaton it answers the only
one, and nothing on a symbol that cannot be read. -/
theorem successor?_exact_demo :
    Demo.branching.successor? (.ofList [1]) 'b' = some (.ofList [2, 5]) ∧
    (∀ other, ⟨.ofList [1], 'b', other⟩ ∈ Demo.branching.edges →
      other = .ofList [2, 5] ∨ Before (.ofList [2, 5]) other) ∧
    (∀ target, ¬ ⟨.ofList [1], 'd', target⟩ ∈ Demo.branching.edges) ∧
    (Demo.relation.determinize 1).successor? (.ofList [1, 2, 3]) 'b' = some (.ofList [4]) ∧
    (Demo.relation.determinize 1).edges.contains ⟨.ofList [1, 2, 3], 'b', .ofList [4]⟩ = true ∧
    ¬ 'a' ∈ Demo.relation.edgesFromSet (.ofList [1, 2, 3]) := by
  obtain ⟨any, constructed⟩ := successor?_exact (Q := Nat) (S := Char)
  obtain ⟨answers, -, readable⟩ := constructed Demo.relation 1
  have smaller : Demo.branching.successor? (.ofList [1]) 'b' = some (.ofList [2, 5]) := by
    decide +kernel
  have only : (Demo.relation.determinize 1).successor? (.ofList [1, 2, 3]) 'b' =
      some (.ofList [4]) := by
    decide +kernel
  refine ⟨smaller, ((any _ _ _).1 _ |>.mp smaller).2, (any _ _ _).2.mp (by decide +kernel), only,
    (answers _ _ _).mp only, ?_⟩
  exact mt (readable (.ofList [1, 2, 3]) (by decide +kernel) 'a').mpr (by decide +kernel)

end Determinize
