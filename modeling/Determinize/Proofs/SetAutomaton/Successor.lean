import Determinize.Proofs.SetAutomaton.Edges
import Determinize.Proofs.SortedSet.Ceiling

/-!
The look-up of a successor.

* `exists_successor?`: in any set of edges, if there is an edge with the given source and symbol
  then the look-up finds one, and no such edge has a smaller target. The bound of the look-up is
  no edge of the automaton but stands where the first edge with this source and symbol would:
  below all of them, because no set is smaller than the empty one (`not_before_floor`), and above
  everything that comes before them (`eq_of_between`).
* `mem_edges_of_successor?`, `successor?_eq_none_iff`: what is found is an edge, and nothing is
  found exactly if there is no edge with the given source and symbol.
* `Relation.successor?_of_discovered`: after the subset construction, the look-up in a discovered
  set agrees with the step of the construction.
-/

namespace Determinize

variable {Q S : Type} [TotalOrd Q] [TotalOrd S]

/-! ### Where the edges of one source and symbol stand -/

namespace Edge

variable {source : StateSet Q} {symbol : S} {target target' : StateSet Q}

/-- The bound below all edges with a source and a symbol. -/
def floor (source : StateSet Q) (symbol : S) : Edge Q S := ⟨source, symbol, ∅⟩

theorem compare_mk (e f : Edge Q S) :
    compare e f = (compare e.source f.source).then
      ((compare e.symbol f.symbol).then (compare e.target f.target)) := rfl

theorem compare_of_same :
    compare (⟨source, symbol, target⟩ : Edge Q S) ⟨source, symbol, target'⟩ =
      compare target target' := by
  rw [compare_mk, compare_eq_iff.mpr rfl, compare_eq_iff.mpr rfl]
  rfl

theorem not_before_floor :
    ¬ Before (⟨source, symbol, target⟩ : Edge Q S) (floor source symbol) := by
  rw [floor, Before, compare_of_same, SortedSet.compare_def]
  exact Ordering.isGE_iff_ne_lt.mp List.isGE_compare_nil_right

theorem not_before_source {e f : Edge Q S} (h : ¬ Before e f) : ¬ Before e.source f.source := by
  intro hsource
  rw [Before, compare_mk, hsource] at h
  exact h rfl

theorem not_before_symbol {e f : Edge Q S} (h : ¬ Before e f) (same : e.source = f.source) :
    ¬ Before e.symbol f.symbol := by
  intro hsymbol
  rw [Before, compare_mk, same, compare_eq_iff.mpr rfl, hsymbol] at h
  exact h rfl

/-- What stands between the bound and an edge has the source and the symbol of the edge. -/
theorem eq_of_between {e : Edge Q S} (hlow : ¬ Before e (floor source symbol))
    (hhigh : ¬ Before ⟨source, symbol, target⟩ e) : e.source = source ∧ e.symbol = symbol := by
  have hsource : e.source = source :=
    eq_of_not_before (not_before_source hlow) (not_before_source hhigh)
  have hsymbol : e.symbol = symbol :=
    eq_of_not_before (not_before_symbol hlow hsource) (not_before_symbol hhigh hsource.symm)
  exact ⟨hsource, hsymbol⟩

end Edge

/-! ### The look-up in any set of edges -/

namespace SetAutomaton

variable {a : SetAutomaton Q S} {source : StateSet Q} {symbol : S} {target : StateSet Q}

theorem successor?_of_ceiling {e : Edge Q S}
    (h : a.edges.ceiling? (.floor source symbol) = some e) :
    a.successor? source symbol =
      if e.source = source ∧ e.symbol = symbol then some e.target else none := by
  rw [successor?, ← Edge.floor, h]
  by_cases hmatch : e.source = source ∧ e.symbol = symbol
  · rw [if_pos hmatch, Option.filter_some, if_pos (by simpa using hmatch)]
    rfl
  · rw [if_neg hmatch, Option.filter_some, if_neg (by simpa using hmatch)]
    rfl

/-- If there is an edge with the given source and symbol, the look-up finds one, and its target
is no larger. -/
theorem exists_successor? (h : (⟨source, symbol, target⟩ : Edge Q S) ∈ a.edges) :
    ∃ found, a.successor? source symbol = some found ∧
      (⟨source, symbol, found⟩ : Edge Q S) ∈ a.edges ∧ ¬ Before target found := by
  cases hceil : a.edges.ceiling? (.floor source symbol) with
  | none =>
    exact absurd (SortedSet.ceiling?_eq_none_iff.mp hceil _ h) Edge.not_before_floor
  | some e =>
    obtain ⟨hmem, hlow, least⟩ := SortedSet.ceiling?_eq_some_iff.mp hceil
    have hhigh : ¬ Before ⟨source, symbol, target⟩ e := least _ h Edge.not_before_floor
    obtain ⟨rfl, rfl⟩ := Edge.eq_of_between hlow hhigh
    refine ⟨e.target, ?_, hmem, ?_⟩
    · rw [successor?_of_ceiling hceil, if_pos ⟨rfl, rfl⟩]
    · intro hbefore
      refine hhigh ?_
      rw [Before, Edge.compare_mk, compare_eq_iff.mpr rfl, compare_eq_iff.mpr rfl]
      exact hbefore

theorem mem_edges_of_successor? (h : a.successor? source symbol = some target) :
    (⟨source, symbol, target⟩ : Edge Q S) ∈ a.edges := by
  cases hceil : a.edges.ceiling? (.floor source symbol) with
  | none =>
    rw [successor?, ← Edge.floor, hceil] at h
    cases h
  | some e =>
    rw [successor?_of_ceiling hceil] at h
    by_cases hmatch : e.source = source ∧ e.symbol = symbol
    · obtain ⟨rfl, rfl⟩ := hmatch
      rw [if_pos ⟨rfl, rfl⟩] at h
      cases h
      exact (SortedSet.ceiling?_eq_some_iff.mp hceil).1
    · rw [if_neg hmatch] at h
      cases h

/-- The look-up finds nothing exactly if no edge has the given source and symbol. -/
theorem successor?_eq_none_iff : a.successor? source symbol = none ↔
    ∀ target, ¬ (⟨source, symbol, target⟩ : Edge Q S) ∈ a.edges := by
  constructor
  · intro h target hmem
    obtain ⟨found, hfound, -⟩ := exists_successor? hmem
    rw [h] at hfound
    cases hfound
  · intro h
    cases hfound : a.successor? source symbol with
    | none => rfl
    | some target => exact absurd (mem_edges_of_successor? hfound) (h target)

end SetAutomaton

/-! ### The look-up after the subset construction -/

namespace Relation

variable {r : Relation Q S} {start : Q} {states : StateSet Q} {symbol : S}

theorem successor?_of_discovered (h : Discovered r start states)
    (hread : symbol ∈ r.edgesFromSet states) :
    (r.determinize start).successor? states symbol = some (r.stepSet states symbol) := by
  have edge : (⟨states, symbol, r.stepSet states symbol⟩ : Edge Q S) ∈
      (r.determinize start).edges :=
    mem_edges_determinize_iff.mpr ⟨h, hread, rfl⟩
  obtain ⟨found, hfound, hmem, -⟩ := SetAutomaton.exists_successor? edge
  have step : found = r.stepSet states symbol := (mem_edges_determinize_iff.mp hmem).2.2
  rw [hfound, step]

theorem successor?_of_not_mem (hread : ¬ symbol ∈ r.edgesFromSet states) :
    (r.determinize start).successor? states symbol = none := by
  apply SetAutomaton.successor?_eq_none_iff.mpr
  intro target hmem
  exact hread (mem_edges_determinize_iff.mp hmem).2.1

end Relation

end Determinize
