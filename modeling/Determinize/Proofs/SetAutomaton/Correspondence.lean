import Determinize.Proofs.SetAutomaton.Successor

/-!
Subset constructions that correspond to each other.

* `Corresponds` says that a map of sets and a map of symbols take the steps of one construction to
  the steps of another one. Only discovered sets and the symbols that can be read in them count.
* `Corresponds.discovered_iff`, `Corresponds.edges_eq`: then the second construction discovers the
  images of the sets that the first one discovers, and finds the images of its edges. No order of
  sets or symbols enters, since both constructions are described by what they discover.
* `Corresponds.run?_map`: if the map of symbols is injective, then runs on images of words lead to
  images of sets and get stuck together. The induction on the word starts in any discovered set.
-/

namespace Determinize

variable {Q Q' S S' : Type} [TotalOrd Q] [TotalOrd Q']

/-- The edge between the images. -/
def Edge.image (f : StateSet Q → StateSet Q') (g : S → S') (e : Edge Q S) : Edge Q' S' :=
  ⟨f e.source, g e.symbol, f e.target⟩

theorem Edge.image_injective {f : StateSet Q → StateSet Q'} {g : S → S'} (hf : f.Injective)
    (hg : g.Injective) : (Edge.image f g).Injective := by
  rintro ⟨source, symbol, target⟩ ⟨source', symbol', target'⟩ same
  simp only [Edge.image, Edge.mk.injEq] at same
  rw [hf same.1, hg same.2.1, hf same.2.2]

variable [TotalOrd S] [TotalOrd S']

/-- The construction of `r'` from `start'` does with images what that of `r` from `start` does. -/
structure Corresponds (r : Relation Q S) (start : Q) (r' : Relation Q' S') (start' : Q')
    (f : StateSet Q → StateSet Q') (g : S → S') : Prop where
  initial : r'.epsilonClosureOf start' = f (r.epsilonClosureOf start)
  /-- In the image of a discovered set, exactly the images of symbols can be read. -/
  readable : ∀ states, Discovered r start states →
    ∀ b, b ∈ r'.edgesFromSet (f states) ↔ ∃ a ∈ r.edgesFromSet states, g a = b
  step : ∀ states, Discovered r start states → ∀ a ∈ r.edgesFromSet states,
    r'.stepSet (f states) (g a) = f (r.stepSet states a)

namespace Corresponds

variable {r : Relation Q S} {start : Q} {r' : Relation Q' S'} {start' : Q'}
  {f : StateSet Q → StateSet Q'} {g : S → S'}

/-! ### Sets -/

theorem discovered (h : Corresponds r start r' start' f g) {states : StateSet Q}
    (hdisc : Discovered r start states) : Discovered r' start' (f states) := by
  induction hdisc with
  | initial =>
    rw [← h.initial]
    exact .initial
  | @step states a hdisc hread ih =>
    rw [← h.step states hdisc a hread]
    exact .step ih ((h.readable states hdisc (g a)).mpr ⟨a, hread, rfl⟩)

/-- The second construction discovers the images of discovered sets and nothing else. -/
theorem discovered_iff (h : Corresponds r start r' start' f g) {states' : StateSet Q'} :
    Discovered r' start' states' ↔ ∃ states, Discovered r start states ∧ f states = states' := by
  constructor
  · intro hdisc'
    induction hdisc' with
    | initial => exact ⟨_, .initial, h.initial.symm⟩
    | step _ hread' ih =>
      obtain ⟨states, hdisc, rfl⟩ := ih
      obtain ⟨a, hread, rfl⟩ := (h.readable states hdisc _).mp hread'
      exact ⟨_, .step hdisc hread, (h.step states hdisc a hread).symm⟩
  · rintro ⟨states, hdisc, rfl⟩
    exact h.discovered hdisc

/-! ### Edges -/

/-- The second construction finds the images of edges and nothing else. -/
theorem edges_eq (h : Corresponds r start r' start' f g) :
    (r'.determinize start').edges = (r.determinize start).edges.map (Edge.image f g) := by
  ext e'
  rw [Relation.mem_edges_determinize_iff, SortedSet.mem_map]
  constructor
  · rintro ⟨hdisc', hread', htarget'⟩
    obtain ⟨states, hdisc, hsource⟩ := h.discovered_iff.mp hdisc'
    rw [← hsource] at hread' htarget'
    obtain ⟨a, hread, hsymbol⟩ := (h.readable states hdisc _).mp hread'
    rw [← hsymbol, h.step states hdisc a hread] at htarget'
    refine ⟨r.edgeOf (states, a), Relation.mem_edges_determinize_iff.mpr ⟨hdisc, hread, rfl⟩, ?_⟩
    calc Edge.image f g (r.edgeOf (states, a))
        = ⟨f states, g a, f (r.stepSet states a)⟩ := rfl
      _ = e' := by rw [hsource, hsymbol, ← htarget']
  · rintro ⟨e, he, rfl⟩
    obtain ⟨hdisc, hread, htarget⟩ := Relation.mem_edges_determinize_iff.mp he
    refine ⟨h.discovered hdisc, (h.readable _ hdisc _).mpr ⟨_, hread, rfl⟩, ?_⟩
    simp only [Edge.image]
    rw [h.step _ hdisc _ hread, htarget]

theorem size_edges (h : Corresponds r start r' start' f g) (hf : f.Injective)
    (hg : g.Injective) :
    (r'.determinize start').edges.size = (r.determinize start).edges.size := by
  rw [h.edges_eq, SortedSet.size_map_of_injective (Edge.image_injective hf hg)]

/-- Constructions that do the same give the same automaton. -/
theorem determinize_eq {r r' : Relation Q S} {start start' : Q}
    (h : Corresponds r start r' start' id id) : r'.determinize start' = r.determinize start := by
  have initial : (r'.determinize start').initial = (r.determinize start).initial := h.initial
  have edges : (r'.determinize start').edges = (r.determinize start).edges := by
    rw [h.edges_eq]
    exact SortedSet.map_id _
  calc r'.determinize start'
      = ⟨(r'.determinize start').initial, (r'.determinize start').edges⟩ := rfl
    _ = ⟨(r.determinize start).initial, (r.determinize start).edges⟩ := by rw [initial, edges]

/-! ### Runs -/

theorem successor?_image (h : Corresponds r start r' start' f g) (hg : g.Injective)
    {states : StateSet Q} (hdisc : Discovered r start states) (a : S) :
    (r'.determinize start').successor? (f states) (g a) =
      ((r.determinize start).successor? states a).map f := by
  by_cases hread : a ∈ r.edgesFromSet states
  · have hread' : g a ∈ r'.edgesFromSet (f states) :=
      (h.readable states hdisc _).mpr ⟨a, hread, rfl⟩
    rw [Relation.successor?_of_discovered hdisc hread,
      Relation.successor?_of_discovered (h.discovered hdisc) hread', h.step states hdisc a hread]
    rfl
  · have hread' : ¬ g a ∈ r'.edgesFromSet (f states) := by
      intro hmem
      obtain ⟨b, hb, same⟩ := (h.readable states hdisc _).mp hmem
      exact hread (hg same ▸ hb)
    rw [Relation.successor?_of_not_mem hread, Relation.successor?_of_not_mem hread']
    rfl

theorem foldlM_successor?_map (h : Corresponds r start r' start' f g) (hg : g.Injective)
    {states : StateSet Q} (hdisc : Discovered r start states) (word : List S) :
    (word.map g).foldlM (r'.determinize start').successor? (f states) =
      (word.foldlM (r.determinize start).successor? states).map f := by
  induction word generalizing states with
  | nil => rfl
  | cons a word ih =>
    rw [List.map_cons, List.foldlM_cons, List.foldlM_cons, h.successor?_image hg hdisc]
    by_cases hread : a ∈ r.edgesFromSet states
    · rw [Relation.successor?_of_discovered hdisc hread]
      exact ih (.step hdisc hread)
    · rw [Relation.successor?_of_not_mem hread]
      rfl

/-- Runs on images of words lead to images of sets. -/
theorem run?_map (h : Corresponds r start r' start' f g) (hg : g.Injective) (word : List S) :
    (r'.determinize start').run? (word.map g) = ((r.determinize start).run? word).map f := by
  have initial : (r'.determinize start').initial = f (r.determinize start).initial := h.initial
  rw [SetAutomaton.run?, initial]
  exact h.foldlM_successor?_map hg .initial word

end Corresponds

end Determinize
