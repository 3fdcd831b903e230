import Determinize.Proofs.Relation.Queries
import Determinize.Relation.Insertion
import Mathlib.Data.List.Induction

/-!
The transitions that a relation holds.

* `Holds` says which regular transitions and which epsilon transitions a relation holds, and that
  it has counted them. `Holds.insert` is the step lemma: an insertion adds the transition that it is
  about. `holds_insertMany` follows by induction on the insertions, so a relation that is made by
  insertions holds what was inserted, whatever the order and however often.
* `Holds.mem_edgesFrom`, `Holds.mem_alphabet` and `Holds.mem_states` read the answers of the
  other queries off the transitions; `mem_nextStates_addMany`, `mem_epsilonSuccessors_addMany` and
  `mem_states_addMany` read them off a list of transitions that were added.
* `WellFormed.eq_of_holds`: a well-formed relation is determined by its epsilon symbol and by the
  transitions that it holds.
-/

namespace Determinize.Relation

open Insertion (regularSet epsilonSet)

variable {Q S : Type} [TotalOrd Q] [TotalOrd S] {r r' : Relation Q S}
  {regular : SortedSet (Q × S × Q)} {silent : SortedSet (Q × Q)} {epsilon : Option S}

/-- The relation holds these regular transitions and these epsilon transitions and no others. -/
structure Holds (r : Relation Q S) (regular : SortedSet (Q × S × Q))
    (silent : SortedSet (Q × Q)) : Prop where
  mem_nextStates : ∀ (q : Q) (a : S) (p : Q), p ∈ r.nextStates q a ↔ (q, a, p) ∈ regular
  mem_epsilonSuccessors : ∀ q p : Q, p ∈ r.epsilonSuccessors q ↔ (q, p) ∈ silent
  transitions_eq : r.transitions = regular.size + silent.size

/-! ### Insertions -/

theorem holds_empty (epsilon : Option S) : (empty epsilon : Relation Q S).Holds ∅ ∅ where
  mem_nextStates q a p := by simp [nextStates, empty]
  mem_epsilonSuccessors q p := by simp [epsilonSuccessors, empty]
  transitions_eq := rfl

theorem Holds.addEpsilon (h : r.Holds regular silent) (source target : Q) :
    (r.addEpsilon source target).Holds regular (silent.insert (source, target)) where
  mem_nextStates := h.mem_nextStates
  mem_epsilonSuccessors q p := by
    have before := h.mem_epsilonSuccessors q p
    simp only [epsilonSuccessors, Relation.addEpsilon] at before ⊢
    rw [Index.mem_lookup_add, before, SortedSet.mem_insert, Prod.mk.injEq]
  transitions_eq := by
    have counted := h.transitions_eq
    have known : target ∈ r.epsilon.lookup source ↔ (source, target) ∈ silent :=
      h.mem_epsilonSuccessors source target
    simp only [Relation.addEpsilon, SortedSet.size_insert, known]
    split <;> omega

theorem Holds.addRegular (h : r.Holds regular silent) (t : Transition Q S) :
    (r.addRegular t).Holds (regular.insert (t.source, t.symbol, t.target)) silent where
  mem_nextStates q a p := by
    have before := h.mem_nextStates q a p
    simp only [nextStates, Relation.addRegular] at before ⊢
    rw [Index.mem_lookup_add, before, SortedSet.mem_insert, Prod.mk.injEq, Prod.mk.injEq,
      Prod.mk.injEq, and_assoc]
  mem_epsilonSuccessors := h.mem_epsilonSuccessors
  transitions_eq := by
    have counted := h.transitions_eq
    have known : t.target ∈ r.next.lookup (t.source, t.symbol) ↔
        (t.source, t.symbol, t.target) ∈ regular := h.mem_nextStates t.source t.symbol t.target
    simp only [Relation.addRegular, SortedSet.size_insert, known]
    split <;> omega

/-- One more insertion adds its transition to those that are held. -/
theorem Holds.insert {insertions : List (Insertion Q S)} {i : Insertion Q S}
    (symbol : r.epsilonSymbol = epsilon)
    (h : r.Holds (regularSet epsilon insertions) (epsilonSet epsilon insertions)) :
    (r.edit i.edit).Holds (regularSet epsilon (insertions ++ [i]))
      (epsilonSet epsilon (insertions ++ [i])) := by
  subst symbol
  unfold regularSet epsilonSet at h ⊢
  rw [SortedSet.ofList_filterMap_concat, SortedSet.ofList_filterMap_concat]
  rcases edit_insertion_cases r i with
    ⟨target, hregular, hsilent, hedit⟩ | ⟨a, target, hregular, hsilent, hedit⟩
  · rw [hregular, hsilent, hedit]
    exact h.addEpsilon i.source target
  · rw [hregular, hsilent, hedit]
    exact h.addRegular ⟨i.source, a, target⟩

theorem epsilonSymbol_edit (r : Relation Q S) (i : Insertion Q S) :
    (r.edit i.edit).epsilonSymbol = r.epsilonSymbol := by
  rcases edit_insertion_cases r i with ⟨target, -, -, hedit⟩ | ⟨a, target, -, -, hedit⟩
  · rw [hedit]
    rfl
  · rw [hedit]
    rfl

/-- Insertions leave the epsilon symbol as it is. -/
theorem epsilonSymbol_insertMany (r : Relation Q S) (insertions : List (Insertion Q S)) :
    (r.insertMany insertions).epsilonSymbol = r.epsilonSymbol := by
  induction insertions generalizing r with
  | nil => rfl
  | cons i insertions ih => exact (ih _).trans (epsilonSymbol_edit r i)

/-- A relation that is made by insertions holds exactly what was inserted. -/
theorem holds_insertMany (epsilon : Option S) (insertions : List (Insertion Q S)) :
    ((empty epsilon).insertMany insertions).Holds (regularSet epsilon insertions)
      (epsilonSet epsilon insertions) := by
  induction insertions using List.reverseRecOn with
  | nil => exact holds_empty epsilon
  | append_singleton insertions i ih =>
    rw [insertMany_append]
    exact ih.insert (epsilonSymbol_insertMany _ _)

theorem wellFormed_insertMany (epsilon : Option S) (insertions : List (Insertion Q S)) :
    ((empty epsilon).insertMany insertions).WellFormed :=
  (wellFormed_empty epsilon).replay _

/-! ### Queries -/

theorem Holds.mem_edgesFrom (h : r.Holds regular silent) (wf : r.WellFormed) {q : Q} {a : S} :
    a ∈ r.edgesFrom q ↔ ∃ p, (q, a, p) ∈ regular := by
  rw [wf.mem_edgesFrom_iff]
  simp only [h.mem_nextStates]

theorem Holds.mem_alphabet (h : r.Holds regular silent) (wf : r.WellFormed) {a : S} :
    a ∈ r.alphabet ↔ ∃ q p, (q, a, p) ∈ regular := by
  rw [mem_alphabet_iff]
  simp only [h.mem_edgesFrom wf]

/-- The states of a well-formed relation are the sources and targets of its transitions. -/
theorem Holds.mem_states (h : r.Holds regular silent) (wf : r.WellFormed) {q : Q} :
    q ∈ r.states ↔
      (∃ a p, (q, a, p) ∈ regular ∨ (p, a, q) ∈ regular) ∨
        ∃ p, (q, p) ∈ silent ∨ (p, q) ∈ silent := by
  simp only [← h.mem_nextStates, ← h.mem_epsilonSuccessors]
  constructor
  · intro hq
    simp only [states, SortedSet.mem_union, SortedSet.mem_ofList, List.mem_map,
      Index.mem_values_iff, wf.next_filled.mem_keys_iff, wf.epsilon_filled.mem_keys_iff] at hq
    rcases hq with (⟨⟨q, a⟩, ⟨p, hp⟩, rfl⟩ | ⟨⟨p, a⟩, hq⟩) | (⟨p, hp⟩ | ⟨p, hq⟩)
    · exact .inl ⟨a, p, .inl hp⟩
    · exact .inl ⟨a, p, .inr hq⟩
    · exact .inr ⟨p, .inl hp⟩
    · exact .inr ⟨p, .inr hq⟩
  · rintro (⟨a, p, hp | hq⟩ | ⟨p, hp | hq⟩)
    · exact source_mem_states_of_nextStates hp
    · exact mem_states_of_mem_nextStates hq
    · exact source_mem_states_of_epsilonSuccessors hp
    · exact mem_states_of_mem_epsilonSuccessors hq

/-! ### Adding transitions to an empty relation -/

section

variable {ts : List (Transition Q S)} {q p : Q} {a : S}

theorem holds_addMany (epsilon : Option S) (ts : List (Transition Q S)) :
    ((empty epsilon).addMany ts).Holds (regularSet epsilon (ts.map .add))
      (epsilonSet epsilon (ts.map .add)) := by
  rw [← insertMany_map_add]
  exact holds_insertMany epsilon _

theorem wellFormed_addMany (epsilon : Option S) (ts : List (Transition Q S)) :
    ((empty epsilon).addMany ts).WellFormed := by
  rw [← insertMany_map_add]
  exact wellFormed_insertMany epsilon _

theorem mem_nextStates_addMany :
    p ∈ ((empty epsilon).addMany ts).nextStates q a ↔ epsilon ≠ some a ∧ ⟨q, a, p⟩ ∈ ts := by
  rw [(holds_addMany epsilon ts).mem_nextStates, Insertion.mem_regularSet_iff]
  simp

theorem mem_epsilonSuccessors_addMany :
    p ∈ ((empty epsilon).addMany ts).epsilonSuccessors q ↔
      ∃ a, epsilon = some a ∧ ⟨q, a, p⟩ ∈ ts := by
  rw [(holds_addMany epsilon ts).mem_epsilonSuccessors, Insertion.mem_epsilonSet_iff]
  simp

/-- The states are the sources and targets of what was added, of whichever kind it is. -/
theorem mem_states_addMany :
    q ∈ ((empty epsilon).addMany ts).states ↔ ∃ t ∈ ts, q = t.source ∨ q = t.target := by
  rw [(holds_addMany epsilon ts).mem_states (wellFormed_addMany epsilon ts)]
  simp only [← (holds_addMany epsilon ts).mem_nextStates,
    ← (holds_addMany epsilon ts).mem_epsilonSuccessors, mem_nextStates_addMany,
    mem_epsilonSuccessors_addMany]
  constructor
  · rintro (⟨a, p, ⟨-, ht⟩ | ⟨-, ht⟩⟩ | ⟨p, ⟨a, -, ht⟩ | ⟨a, -, ht⟩⟩)
    · exact ⟨_, ht, .inl rfl⟩
    · exact ⟨_, ht, .inr rfl⟩
    · exact ⟨_, ht, .inl rfl⟩
    · exact ⟨_, ht, .inr rfl⟩
  · rintro ⟨t, ht, rfl | rfl⟩
    · by_cases silent : epsilon = some t.symbol
      · exact .inr ⟨t.target, .inl ⟨t.symbol, silent, ht⟩⟩
      · exact .inl ⟨t.symbol, t.target, .inl ⟨silent, ht⟩⟩
    · by_cases silent : epsilon = some t.symbol
      · exact .inr ⟨t.source, .inr ⟨t.symbol, silent, ht⟩⟩
      · exact .inl ⟨t.symbol, t.source, .inr ⟨silent, ht⟩⟩

end

/-! ### The transitions determine the relation -/

/-- Well-formed relations with the same epsilon symbol and the same transitions are equal. -/
theorem WellFormed.eq_of_holds (wf : r.WellFormed) (wf' : r'.WellFormed)
    (symbol : r.epsilonSymbol = r'.epsilonSymbol) (h : r.Holds regular silent)
    (h' : r'.Holds regular silent) : r = r' := by
  have next : r.next = r'.next := by
    refine wf.next_filled.eq_of_lookup wf'.next_filled fun k => ?_
    ext p
    exact (h.mem_nextStates k.1 k.2 p).trans (h'.mem_nextStates k.1 k.2 p).symm
  have silent : r.epsilon = r'.epsilon := by
    refine wf.epsilon_filled.eq_of_lookup wf'.epsilon_filled fun q => ?_
    ext p
    exact (h.mem_epsilonSuccessors q p).trans (h'.mem_epsilonSuccessors q p).symm
  have edges : r.edges = r'.edges := by
    refine wf.edges_filled.eq_of_lookup wf'.edges_filled fun q => ?_
    ext a
    exact (h.mem_edgesFrom wf).trans (h'.mem_edgesFrom wf').symm
  have counted : r.transitions = r'.transitions := h.transitions_eq.trans h'.transitions_eq.symm
  cases r
  cases r'
  simp_all

end Determinize.Relation
