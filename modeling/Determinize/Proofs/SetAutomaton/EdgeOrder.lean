import Determinize.Proofs.SetAutomaton.Lookup
import Determinize.Proofs.SortedSet.Canonical

/-!
The order of edges and where the edges of one source and symbol stand in it.

* `Edge.before_iff`: edges are ordered by source, then by symbol and finally by target.
* `exists_split_edgesOn`: in any set of edges, those with one source and symbol stand side by side.
  What comes before them is exactly what is below the bound of the look-up, because the bound and an
  edge with this source and symbol have nothing else between them (`Edge.eq_of_between`).
* `canonical_sets_and_edges` puts this together with what is known of sets.
-/

namespace Determinize

variable {Q S : Type} [TotalOrd Q] [TotalOrd S]

theorem Edge.before_iff {e f : Edge Q S} : Before e f ↔
    Before e.source f.source ∨ e.source = f.source ∧
      (Before e.symbol f.symbol ∨ e.symbol = f.symbol ∧ Before e.target f.target) := by
  rw [Before, Edge.compare_mk, Ordering.then_eq_lt, Ordering.then_eq_lt, compare_eq_iff,
    compare_eq_iff]

/-! ### The edges of one source and symbol -/

/-- The edges with a source and a symbol, in ascending order. -/
def edgesOn (edges : SortedSet (Edge Q S)) (source : StateSet Q) (symbol : S) : List (Edge Q S) :=
  edges.toList.filter fun e => e.source = source ∧ e.symbol = symbol

variable {edges : SortedSet (Edge Q S)} {source : StateSet Q} {symbol : S}

/-- Behind an edge that is not below the bound and has another source or symbol, no edge has this
source and symbol. -/
theorem Edge.ne_of_before {e f : Edge Q S} (h : Before e f)
    (high : ¬ Before e (.floor source symbol)) (other : ¬ (e.source = source ∧ e.symbol = symbol)) :
    ¬ (f.source = source ∧ f.symbol = symbol) := by
  rintro ⟨rfl, rfl⟩
  exact other (Edge.eq_of_between high (Before.asymm h))

theorem Edge.ne_of_before_floor {e : Edge Q S} (low : Before e (.floor source symbol)) :
    ¬ (e.source = source ∧ e.symbol = symbol) := by
  rintro ⟨rfl, rfl⟩
  exact Edge.not_before_floor low

theorem filter_eq_nil_of_ne {es : List (Edge Q S)}
    (h : ∀ e ∈ es, ¬ (e.source = source ∧ e.symbol = symbol)) :
    es.filter (fun e => e.source = source ∧ e.symbol = symbol) = [] :=
  List.filter_eq_nil_iff.mpr fun e he => by simpa using h e he

/-- The edges of one source and symbol stand side by side, and what comes before them are the edges
below the bound. -/
theorem exists_split_edgesOn (edges : SortedSet (Edge Q S)) (source : StateSet Q) (symbol : S) :
    ∃ below above, edges.toList = below ++ edgesOn edges source symbol ++ above ∧
      (∀ e ∈ below, Before e (.floor source symbol)) ∧
      ∀ e ∈ edgesOn edges source symbol ++ above, ¬ Before e (.floor source symbol) := by
  -- first the edges below the bound are split off, then the first edge that does not match
  obtain ⟨below, rest, hlist, hbelow, hrest⟩ :=
    exists_split (edges.ascending.imp fun {e f} (h : Before e f)
      (high : ¬ Before e (.floor source symbol)) hf => high (h.trans hf))
  have ascending := edges.ascending
  rw [hlist, List.pairwise_append] at ascending
  obtain ⟨block, above, rfl, hblock, habove⟩ :=
    exists_split (ascending.2.1.imp_of_mem fun {e f} he _ h => Edge.ne_of_before h (hrest e he))
  have low : ∀ e ∈ below, Before e (.floor source symbol) := fun e he =>
    Decidable.not_not.mp (hbelow e he)
  have same : edgesOn edges source symbol = block := by
    have all : block.filter (fun e => e.source = source ∧ e.symbol = symbol) = block :=
      List.filter_eq_self.mpr fun e he => by simpa using hblock e he
    rw [edgesOn, hlist, List.filter_append, List.filter_append, all, filter_eq_nil_of_ne habove,
      filter_eq_nil_of_ne fun e he => Edge.ne_of_before_floor (low e he), List.nil_append,
      List.append_nil]
  rw [same]
  exact ⟨below, above, by rw [hlist, List.append_assoc], low, hrest⟩

/-- The first edge with a source and a symbol is the first one that is not below the bound. -/
theorem ceiling?_floor {e : Edge Q S} (h : e ∈ (edgesOn edges source symbol).head?) :
    edges.ceiling? (.floor source symbol) = some e := by
  obtain ⟨below, above, hlist, hbelow, hrest⟩ := exists_split_edgesOn edges source symbol
  obtain ⟨later, hblock⟩ := List.head?_eq_some_iff.mp h
  rw [hblock] at hlist hrest
  refine List.find?_eq_some_iff_append.mpr ⟨?_, below, later ++ above, ?_, ?_⟩
  · exact SortedSet.isGE_compare_iff.mpr (hrest e List.mem_cons_self)
  · rw [hlist, List.append_assoc, List.cons_append]
  · intro f hf
    have notHigh : ¬ (compare f (Edge.floor source symbol)).isGE = true :=
      mt SortedSet.isGE_compare_iff.mp (not_not_intro (hbelow f hf))
    simpa using notHigh

/-! ### Sets and edges -/

/-- **Sets are canonical, and edges of one source and symbol stand together.** However a set is made,
what is gone through is the only ascending list of the elements that were put into it, an insertion
says whether the element is a new one, and sets made of the same elements are equal. Sets are totally
ordered by the first element in which they differ, edges by source, symbol and target. In any set of
edges those of a source and a symbol are side by side, where the bound of the look-up points. -/
theorem canonical_sets_and_edges :
    (∀ h : SetHistory Q,
      (∀ l, h.set.toList = l ↔ l.Pairwise Before ∧ ∀ a, a ∈ l ↔ a ∈ h.elements) ∧
      (∀ a, (h.set.insertNew a).1 = true ↔ ¬ a ∈ h.elements) ∧
      ∀ h' : SetHistory Q, h.set = h'.set ↔ ∀ a, a ∈ h.elements ↔ a ∈ h'.elements) ∧
    TotallyOrdered (StateSet Q) ∧
    (∀ s t : StateSet Q, Before s t ↔ LexBefore s.toList t.toList) ∧
    TotallyOrdered (Edge Q S) ∧
    (∀ e f : Edge Q S, Before e f ↔ Before e.source f.source ∨ e.source = f.source ∧
      (Before e.symbol f.symbol ∨ e.symbol = f.symbol ∧ Before e.target f.target)) ∧
    ∀ (edges : SortedSet (Edge Q S)) (source : StateSet Q) (symbol : S),
      (∃ below above, edges.toList = below ++ edgesOn edges source symbol ++ above ∧
        (∀ e ∈ below, Before e (.floor source symbol)) ∧
        ∀ e ∈ edgesOn edges source symbol ++ above, ¬ Before e (.floor source symbol)) ∧
      ∀ e ∈ (edgesOn edges source symbol).head?,
        edges.ceiling? (.floor source symbol) = some e := by
  refine ⟨fun h => ⟨fun l => ?_, fun a => ?_, fun h' => ?_⟩, totallyOrdered,
    fun s t => SortedSet.before_iff, totallyOrdered, fun e f => Edge.before_iff,
    fun edges source symbol => ⟨exists_split_edgesOn edges source symbol, fun e => ceiling?_floor⟩⟩
  · simp only [← SetHistory.mem_set_iff]
    exact SortedSet.toList_eq_iff
  · rw [← SetHistory.mem_set_iff]
    exact SortedSet.insertNew_fst
  · simp only [← SetHistory.mem_set_iff]
    exact SortedSet.ext_iff

namespace Demo

/-- A set of sets, made in four steps with repetitions. -/
def setHistory : SetHistory (StateSet Nat) :=
  .unionWith (.extend (.insert (.singleton (.ofList [3, 1])) (.ofList [2])) [∅, .ofList [1, 3]])
    (.ofList [.ofList [1]])

end Demo

/-- The demo's sets come in lexicographic order, a set made in another way is the same one, and
`{1, 2}` is new. Of two edges with the same source and symbol the bound points at the first. -/
theorem canonical_sets_and_edges_demo :
    Demo.setHistory.set.toList = [∅, .ofList [1], .ofList [1, 3], .ofList [2]] ∧
    (Demo.setHistory.set.insertNew (.ofList [1, 2])).1 = true ∧
    Demo.setHistory.set =
      (SetHistory.ofArray #[.ofList [2], .ofList [1], ∅, .ofList [3, 1]]).set ∧
    Before (.ofList [1] : StateSet Nat) (.ofList [2]) ∧
    Demo.branching.edges.ceiling? (.floor (.ofList [1]) 'b') =
      some ⟨.ofList [1], 'b', .ofList [2, 5]⟩ := by
  obtain ⟨made, -⟩ := canonical_sets_and_edges (Q := StateSet Nat) (S := Char)
  obtain ⟨-, ordered, -, -, -, blocks⟩ := canonical_sets_and_edges (Q := Nat) (S := Char)
  obtain ⟨passed, reported, same⟩ := made Demo.setHistory
  have turned : (.ofList [3, 1] : StateSet Nat) = .ofList [1, 3] := by decide +kernel
  refine ⟨(passed _).mpr ⟨by decide +kernel, ?_⟩, (reported _).mpr (by decide +kernel),
    (same _).mpr ?_, ?_, ?_⟩
  · intro s
    simp only [Demo.setHistory, SetHistory.elements, turned]
    grind
  · intro s
    simp only [Demo.setHistory, SetHistory.elements, turned]
    grind
  · exact ordered.trans _ (.ofList [1, 3]) _ (by decide +kernel) (by decide +kernel)
  · exact (blocks Demo.branching.edges (.ofList [1]) 'b').2 _ (by decide +kernel)

end Determinize
