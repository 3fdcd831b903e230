import Determinize.Proofs.Relation.Insertions
import Determinize.Proofs.SetAutomaton.Correspondence

/-!
States and symbols under other names.

* `RenamedAt` says that one state has the same transitions in two relations, up to the names of
  states and symbols. `epsilonClosure_map` and `stepSet_map`: closures and steps of the renamed
  sets are the renamed closures and steps, provided that the states that come up are renamed. The
  induction is on epsilon transitions, so the order in which either search meets the states plays
  no part.
* `corresponds_of_renamed`: if all states of discovered sets are renamed, the constructions
  correspond.
* `Holds.renamedAt`: if the transitions of one relation are those of the other under injective
  names, then every state is renamed. Injectivity is what keeps transitions of different states
  and symbols apart.
* `determinize_rename` is the law for relations that are made by insertions: whatever the names
  and their order, the automaton is the same up to names.
-/

namespace Determinize

variable {Q Q' S S' : Type} {f : Q → Q'} {g : S → S'}

namespace Insertion

/-! ### Renamed insertions -/

theorem map_eq_some_apply_iff (hg : g.Injective) {epsilon : Option S} {a : S} :
    epsilon.map g = some (g a) ↔ epsilon = some a :=
  (Option.map_injective hg).eq_iff (b := some a)

variable [TotalOrd S] [TotalOrd S']

/-- A renamed insertion is about the renamed transition, of the same kind. -/
theorem regular?_rename (f : Q → Q') (hg : g.Injective) (epsilon : Option S) (i : Insertion Q S) :
    (i.rename f g).regular? (epsilon.map g) =
      (i.regular? epsilon).map (Prod.map f (Prod.map g f)) := by
  cases i with
  | addEpsilon source target => rfl
  | add t =>
    simp only [rename, regular?, map_eq_some_apply_iff hg]
    split <;> rfl

theorem epsilon?_rename (f : Q → Q') (hg : g.Injective) (epsilon : Option S) (i : Insertion Q S) :
    (i.rename f g).epsilon? (epsilon.map g) = (i.epsilon? epsilon).map (Prod.map f f) := by
  cases i with
  | addEpsilon source target => rfl
  | add t =>
    simp only [rename, epsilon?, map_eq_some_apply_iff hg]
    split <;> rfl

variable [TotalOrd Q] [TotalOrd Q']

theorem regularSet_rename (f : Q → Q') (hg : g.Injective) (epsilon : Option S)
    (insertions : List (Insertion Q S)) :
    regularSet (epsilon.map g) (insertions.map (rename f g)) =
      (regularSet epsilon insertions).map (Prod.map f (Prod.map g f)) := by
  simp only [regularSet, ← SortedSet.ofList_map, List.filterMap_map, List.map_filterMap,
    Function.comp_def, regular?_rename f hg]

theorem epsilonSet_rename (f : Q → Q') (hg : g.Injective) (epsilon : Option S)
    (insertions : List (Insertion Q S)) :
    epsilonSet (epsilon.map g) (insertions.map (rename f g)) =
      (epsilonSet epsilon insertions).map (Prod.map f f) := by
  simp only [epsilonSet, ← SortedSet.ofList_map, List.filterMap_map, List.map_filterMap,
    Function.comp_def, epsilon?_rename f hg]

end Insertion

namespace Relation

variable [TotalOrd Q] [TotalOrd Q'] [TotalOrd S] [TotalOrd S'] {r : Relation Q S}
  {r' : Relation Q' S'} {states : StateSet Q}

/-- The transitions of `r'` from `f q` are those of `r` from `q` under other names. -/
structure RenamedAt (f : Q → Q') (g : S → S') (r : Relation Q S) (r' : Relation Q' S') (q : Q) :
    Prop where
  nextStates : ∀ a, r'.nextStates (f q) (g a) = (r.nextStates q a).map f
  edgesFrom : r'.edgesFrom (f q) = (r.edgesFrom q).map g
  epsilonSuccessors : r'.epsilonSuccessors (f q) = (r.epsilonSuccessors q).map f

/-! ### Closures and steps -/

/-- What epsilon transitions reach from a renamed state is what they reach, renamed. -/
theorem epsilonReachable_iff_of_renamed {p : Q} {q' : Q'}
    (renamed : ∀ q, EpsilonReachable r p q → RenamedAt f g r r' q) :
    EpsilonReachable r' (f p) q' ↔ ∃ q, EpsilonReachable r p q ∧ f q = q' := by
  constructor
  · intro h
    induction h with
    | refl => exact ⟨p, .refl, rfl⟩
    | step _ hstep ih =>
      obtain ⟨q, hq, rfl⟩ := ih
      rw [(renamed q hq).epsilonSuccessors, SortedSet.mem_map] at hstep
      obtain ⟨n, hn, rfl⟩ := hstep
      exact ⟨n, .step hq hn, rfl⟩
  · rintro ⟨q, hq, rfl⟩
    induction hq with
    | refl => exact .refl
    | @step m n hm hstep ih =>
      refine .step ih ?_
      rw [(renamed m hm).epsilonSuccessors]
      exact SortedSet.mem_map.mpr ⟨n, hstep, rfl⟩

theorem epsilonClosure_map (renamed : ∀ q ∈ r.epsilonClosure states, RenamedAt f g r r' q) :
    r'.epsilonClosure (states.map f) = (r.epsilonClosure states).map f := by
  have reached : ∀ p ∈ states, ∀ q', EpsilonReachable r' (f p) q' ↔
      ∃ q, EpsilonReachable r p q ∧ f q = q' := by
    intro p hp q'
    apply epsilonReachable_iff_of_renamed
    intro q hq
    exact renamed q (mem_epsilonClosure_iff.mpr ⟨p, hp, hq⟩)
  ext q'
  simp only [mem_epsilonClosure_iff, SortedSet.mem_map]
  constructor
  · rintro ⟨_, ⟨p, hp, rfl⟩, h⟩
    obtain ⟨q, hq, rfl⟩ := (reached p hp q').mp h
    exact ⟨q, ⟨p, hp, hq⟩, rfl⟩
  · rintro ⟨q, ⟨p, hp, hq⟩, rfl⟩
    exact ⟨f p, ⟨p, hp, rfl⟩, (reached p hp (f q)).mpr ⟨q, hq, rfl⟩⟩

theorem epsilonClosureOf_map {p : Q}
    (renamed : ∀ q ∈ r.epsilonClosureOf p, RenamedAt f g r r' q) :
    r'.epsilonClosureOf (f p) = (r.epsilonClosureOf p).map f := by
  rw [epsilonClosureOf, ← SortedSet.map_singleton]
  exact epsilonClosure_map renamed

theorem edgesFromSet_map (renamed : ∀ q ∈ states, RenamedAt f g r r' q) :
    r'.edgesFromSet (states.map f) = (r.edgesFromSet states).map g :=
  SortedSet.flatMap_map fun q hq => (renamed q hq).edgesFrom

theorem nextStatesFromSet_map (renamed : ∀ q ∈ states, RenamedAt f g r r' q) (a : S) :
    r'.nextStatesFromSet (states.map f) (g a) = (r.nextStatesFromSet states a).map f :=
  SortedSet.flatMap_map fun q hq => (renamed q hq).nextStates a

theorem stepSet_map {a : S} (renamed : ∀ q ∈ states, RenamedAt f g r r' q)
    (renamedNext : ∀ q ∈ r.stepSet states a, RenamedAt f g r r' q) :
    r'.stepSet (states.map f) (g a) = (r.stepSet states a).map f := by
  rw [stepSet, nextStatesFromSet_map renamed]
  exact epsilonClosure_map renamedNext

/-- If every state of a discovered set is renamed, the constructions correspond. -/
theorem corresponds_of_renamed {start : Q}
    (renamed : ∀ states, Discovered r start states → ∀ q ∈ states, RenamedAt f g r r' q) :
    Corresponds r start r' (f start) (SortedSet.map f) g where
  initial := epsilonClosureOf_map (renamed _ .initial)
  readable states hdisc b := by
    rw [edgesFromSet_map (renamed states hdisc), SortedSet.mem_map]
  step states hdisc a hread :=
    stepSet_map (renamed states hdisc) (renamed _ (.step hdisc hread))

/-! ### Renamed transitions -/

/-- If the transitions are renamed by injective maps, then so is every state. -/
theorem Holds.renamedAt {regular : SortedSet (Q × S × Q)} {silent : SortedSet (Q × Q)}
    (hf : f.Injective) (hg : g.Injective) (wf : r.WellFormed) (wf' : r'.WellFormed)
    (h : r.Holds regular silent)
    (h' : r'.Holds (regular.map (Prod.map f (Prod.map g f))) (silent.map (Prod.map f f))) (q : Q) :
    RenamedAt f g r r' q where
  nextStates a := by
    ext p'
    simp only [h'.mem_nextStates, h.mem_nextStates, SortedSet.mem_map, Prod.exists, Prod.map,
      Prod.mk.injEq, hf.eq_iff, hg.eq_iff]
    constructor
    · rintro ⟨_, _, p, hp, rfl, rfl, rfl⟩
      exact ⟨p, hp, rfl⟩
    · rintro ⟨p, hp, rfl⟩
      exact ⟨q, a, p, hp, rfl, rfl, rfl⟩
  edgesFrom := by
    ext b
    simp only [h'.mem_edgesFrom wf', h.mem_edgesFrom wf, SortedSet.mem_map, Prod.exists, Prod.map,
      Prod.mk.injEq, hf.eq_iff]
    constructor
    · rintro ⟨_, _, a, p, hp, rfl, rfl, rfl⟩
      exact ⟨a, ⟨p, hp⟩, rfl⟩
    · rintro ⟨a, ⟨p, hp⟩, rfl⟩
      exact ⟨f p, q, a, p, hp, rfl, rfl, rfl⟩
  epsilonSuccessors := by
    ext p'
    simp only [h'.mem_epsilonSuccessors, h.mem_epsilonSuccessors, SortedSet.mem_map, Prod.exists,
      Prod.map, Prod.mk.injEq, hf.eq_iff]
    constructor
    · rintro ⟨_, p, hp, rfl, rfl⟩
      exact ⟨p, hp, rfl⟩
    · rintro ⟨p, hp, rfl⟩
      exact ⟨q, p, hp, rfl, rfl⟩

/-- **Names do not matter.** If states and symbols are given other names by injective maps, then
the automaton is the same up to these names: its initial set, its edges and the sets to which
words lead. The maps need not keep any order. -/
theorem determinize_rename (hf : f.Injective) (hg : g.Injective) (epsilon : Option S)
    (insertions : List (Insertion Q S)) (start : Q) :
    let a := ((empty epsilon).insertMany insertions).determinize start
    let a' := ((empty (epsilon.map g)).insertMany (insertions.map (.rename f g))).determinize
      (f start)
    a'.initial = a.initial.map f ∧
    (∀ e', e' ∈ a'.edges ↔
      ∃ e ∈ a.edges, e' = ⟨e.source.map f, g e.symbol, e.target.map f⟩) ∧
    ∀ word, a'.run? (word.map g) = (a.run? word).map fun reached => reached.map f := by
  intro a a'
  have holds := holds_insertMany (epsilon.map g) (insertions.map (.rename f g))
  rw [Insertion.regularSet_rename f hg, Insertion.epsilonSet_rename f hg] at holds
  have h : Corresponds _ start _ (f start) (SortedSet.map f) g :=
    corresponds_of_renamed fun _ _ q _ => (holds_insertMany epsilon insertions).renamedAt hf hg
      (wellFormed_insertMany _ _) (wellFormed_insertMany _ _) holds q
  refine ⟨h.initial, ?_, h.run?_map hg⟩
  intro e'
  rw [show a'.edges = a.edges.map _ from h.edges_eq, SortedSet.mem_map]
  simp only [Edge.image, eq_comm]

end Relation

/-- Negative numbers as the names of states, which reverses their order. -/
def Demo.negative (n : Nat) : Int := -n

theorem Demo.negative_injective : Demo.negative.Injective := by
  intro m n same
  unfold Demo.negative at same
  omega

/-- With numbers for symbols as well, the demo reads 98 where it read `b`. -/
theorem Relation.determinize_rename_demo :
    Demo.negative.Injective ∧ Char.toNat.Injective ∧
      (((empty (some 32)).insertMany
        (Demo.insertions.map (.rename Demo.negative Char.toNat))).determinize (-1)).run? [98] =
          some (.ofList [-4]) := by
  have hg : Char.toNat.Injective := fun _ _ => Char.toNat_inj.mp
  obtain ⟨-, -, run⟩ :=
    Relation.determinize_rename Demo.negative_injective hg (some ' ') Demo.insertions 1
  have reached : (((empty (some ' ')).insertMany Demo.insertions).determinize 1).run? ['b'] =
      some (.ofList [4]) := by decide +kernel
  refine ⟨Demo.negative_injective, hg, (run ['b']).trans ?_⟩
  rw [reached]
  decide +kernel

end Determinize
