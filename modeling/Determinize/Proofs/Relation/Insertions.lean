import Determinize.Log
import Determinize.Proofs.Relation.Transitions

/-!
The order of insertions and their repetitions do not matter.

* `gatherSymbols` and `gatherStates` answer the two queries that go through whole indices, entry by
  entry. `gatherSymbols_eq_alphabet` and `gatherStates_eq_states`: the answers are the same in
  whatever order the entries come.
* `insertMany_eq_of_same`: two lists of insertions with the same transitions make the same relation,
  because a relation is determined by the transitions that it holds.
* `SameAnswers` lists the answers that two relations can share, and `insertMany_determined` says
  that insertions of the same transitions make relations that share them all.
-/

namespace Determinize

namespace Relation

open Insertion (regularSet epsilonSet)

variable {Q S : Type} [TotalOrd Q] [TotalOrd S] {r : Relation Q S} {q : Q}

/-! ### Going through an index -/

/-- The symbols in some entries, gathered entry by entry. -/
def gatherSymbols (edges : List (Q × SortedSet S)) : SortedSet S :=
  edges.foldl (fun gathered e => gathered ∪ e.2) ∅

/-- The sources and targets in some entries, added to `gathered` entry by entry. -/
def gatherInto {κ : Type} (source : κ → Q) (gathered : StateSet Q)
    (entries : List (κ × StateSet Q)) : StateSet Q :=
  entries.foldl (fun gathered e => gathered.insert (source e.1) ∪ e.2) gathered

/-- The sources and targets of regular transitions and then those of epsilon transitions. -/
def gatherStates (next : List ((Q × S) × StateSet Q)) (epsilon : List (Q × StateSet Q)) :
    StateSet Q :=
  gatherInto id (gatherInto Prod.fst ∅ next) epsilon

omit [TotalOrd Q] in
theorem mem_gatherSymbols {edges : List (Q × SortedSet S)} {a : S} :
    a ∈ gatherSymbols edges ↔ ∃ e ∈ edges, a ∈ e.2 := by
  refine Iff.trans (SortedSet.mem_foldl ?_) (or_iff_right (SortedSet.not_mem_empty a))
  intro gathered e a
  exact SortedSet.mem_union

theorem mem_gatherInto {κ : Type} {source : κ → Q} {gathered : StateSet Q}
    {entries : List (κ × StateSet Q)} :
    q ∈ gatherInto source gathered entries ↔
      q ∈ gathered ∨ ∃ e ∈ entries, q = source e.1 ∨ q ∈ e.2 := by
  apply SortedSet.mem_foldl
  intro gathered e q
  simp only [SortedSet.mem_union, SortedSet.mem_insert, or_assoc, or_left_comm]

theorem gatherSymbols_eq_alphabet {edges : List (Q × SortedSet S)}
    (walk : edges.Perm r.edges.entries) : gatherSymbols edges = r.alphabet := by
  ext a
  rw [mem_gatherSymbols]
  simp [alphabet, Index.values, walk.mem_iff, ← SortedSet.mem_def]

theorem gatherStates_eq_states {next : List ((Q × S) × StateSet Q)}
    {epsilon : List (Q × StateSet Q)} (walkNext : next.Perm r.next.entries)
    (walkEpsilon : epsilon.Perm r.epsilon.entries) : gatherStates next epsilon = r.states := by
  ext q
  rw [gatherStates, mem_gatherInto, mem_gatherInto]
  simp only [walkNext.mem_iff, walkEpsilon.mem_iff, states, Index.keys, Index.values,
    SortedSet.mem_union, SortedSet.mem_ofList, List.mem_map, List.mem_flatMap]
  grind [SortedSet.mem_def, SortedSet.not_mem_empty]

/-! ### The same transitions -/

/-- Insertions of the same transitions make the same relation. -/
theorem insertMany_eq_of_same {epsilon : Option S} {insertions insertions' : List (Insertion Q S)}
    (sameRegular : regularSet epsilon insertions = regularSet epsilon insertions')
    (sameSilent : epsilonSet epsilon insertions = epsilonSet epsilon insertions') :
    (empty epsilon).insertMany insertions = (empty epsilon).insertMany insertions' := by
  have holds := holds_insertMany epsilon insertions
  rw [sameRegular, sameSilent] at holds
  refine (wellFormed_insertMany epsilon insertions).eq_of_holds
    (wellFormed_insertMany epsilon insertions') ?_ holds (holds_insertMany epsilon insertions')
  rw [epsilonSymbol_insertMany, epsilonSymbol_insertMany]

/-! ### The same answers -/

/-- Two relations give the same answers to every query, in whatever order their indices are gone
through, and their subset constructions do the same from every start. -/
structure SameAnswers (r r' : Relation Q S) : Prop where
  epsilonSymbol : r.epsilonSymbol = r'.epsilonSymbol
  isEpsilon : ∀ a, r.isEpsilon a = r'.isEpsilon a
  isEmpty : r.isEmpty = r'.isEmpty
  nextStates : ∀ q a, r.nextStates q a = r'.nextStates q a
  nextStatesFromSet : ∀ states a, r.nextStatesFromSet states a = r'.nextStatesFromSet states a
  edgesFrom : ∀ q, r.edgesFrom q = r'.edgesFrom q
  edgesFromSet : ∀ states, r.edgesFromSet states = r'.edgesFromSet states
  epsilonSuccessors : ∀ q, r.epsilonSuccessors q = r'.epsilonSuccessors q
  epsilonClosure : ∀ states, r.epsilonClosure states = r'.epsilonClosure states
  epsilonClosureOf : ∀ q, r.epsilonClosureOf q = r'.epsilonClosureOf q
  alphabet : r.alphabet = r'.alphabet
  states : r.states = r'.states
  transitions : r.transitions = r'.transitions
  gatherSymbols : ∀ edges edges', edges.Perm r.edges.entries → edges'.Perm r'.edges.entries →
    gatherSymbols edges = gatherSymbols edges'
  gatherStates : ∀ next next' silent silent', next.Perm r.next.entries →
    silent.Perm r.epsilon.entries → next'.Perm r'.next.entries →
    silent'.Perm r'.epsilon.entries → gatherStates next silent = gatherStates next' silent'
  /-- The same pairs are worked off, in the same order. -/
  explored : ∀ start, r.explored start = r'.explored start
  determinizeEvents : ∀ start, r.determinizeEvents start = r'.determinizeEvents start
  determinize : ∀ start, r.determinize start = r'.determinize start

theorem sameAnswers_refl (r : Relation Q S) : r.SameAnswers r where
  epsilonSymbol := rfl
  isEpsilon _ := rfl
  isEmpty := rfl
  nextStates _ _ := rfl
  nextStatesFromSet _ _ := rfl
  edgesFrom _ := rfl
  edgesFromSet _ := rfl
  epsilonSuccessors _ := rfl
  epsilonClosure _ := rfl
  epsilonClosureOf _ := rfl
  alphabet := rfl
  states := rfl
  transitions := rfl
  gatherSymbols edges edges' walk walk' := by
    rw [gatherSymbols_eq_alphabet walk, gatherSymbols_eq_alphabet walk']
  gatherStates next next' silent silent' walk walkSilent walk' walkSilent' := by
    rw [gatherStates_eq_states walk walkSilent, gatherStates_eq_states walk' walkSilent']
  explored _ := rfl
  determinizeEvents _ := rfl
  determinize _ := rfl

/-- **Order and repetition do not matter.** Relations that are made by insertions of the same
transitions give the same answers. A state has exactly the targets that were inserted, and what is
counted are the distinct transitions. -/
theorem insertMany_determined (epsilon : Option S) (insertions insertions' : List (Insertion Q S))
    (sameRegular : regularSet epsilon insertions = regularSet epsilon insertions')
    (sameSilent : epsilonSet epsilon insertions = epsilonSet epsilon insertions') :
    let r := (empty epsilon).insertMany insertions
    r.SameAnswers ((empty epsilon).insertMany insertions') ∧
    (∀ q a p, p ∈ r.nextStates q a ↔ epsilon ≠ some a ∧ .add ⟨q, a, p⟩ ∈ insertions) ∧
    (∀ q p, p ∈ r.epsilonSuccessors q ↔
      .addEpsilon q p ∈ insertions ∨ ∃ a, epsilon = some a ∧ .add ⟨q, a, p⟩ ∈ insertions) ∧
    r.transitions =
      (regularSet epsilon insertions).size + (epsilonSet epsilon insertions).size := by
  intro r
  have holds : r.Holds _ _ := holds_insertMany epsilon insertions
  refine ⟨?_, ?_, ?_, holds.transitions_eq⟩
  · rw [← insertMany_eq_of_same sameRegular sameSilent]
    exact sameAnswers_refl r
  · intro q a p
    rw [holds.mem_nextStates, Insertion.mem_regularSet_iff]
  · intro q p
    rw [holds.mem_epsilonSuccessors, Insertion.mem_epsilonSet_iff]

end Relation

namespace Demo

/-- Four insertions of three transitions, two of which are epsilon transitions. -/
def insertions : List (Insertion Nat Char) :=
  [.add ⟨1, ' ', 2⟩, .add ⟨1, 'b', 4⟩, .addEpsilon 2 3, .add ⟨1, 'b', 4⟩]

/-- The same transitions in another order. -/
def shuffled : List (Insertion Nat Char) :=
  [.add ⟨2, ' ', 3⟩, .add ⟨1, 'b', 4⟩, .addEpsilon 1 2, .addEpsilon 2 3, .add ⟨2, ' ', 3⟩]

end Demo

/-- Both lists of insertions make a relation with three transitions and the same automaton. -/
theorem Relation.insertMany_determined_demo :
    ((empty (some ' ')).insertMany Demo.insertions).transitions = 3 ∧
      ((empty (some ' ')).insertMany Demo.insertions).determinize 1 =
        ((empty (some ' ')).insertMany Demo.shuffled).determinize 1 := by
  obtain ⟨same, -, -, counted⟩ :=
    Relation.insertMany_determined (some ' ') Demo.insertions Demo.shuffled (by decide) (by decide)
  exact ⟨counted, same.determinize 1⟩

end Determinize
