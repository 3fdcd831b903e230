import Determinize.Proofs.SetAutomaton.Renaming
import Determinize.Proofs.SetAutomaton.States

/-!
What the subset construction does not look at.

* `SameAt` says that a state has the same transitions in two relations. An insertion keeps them in
  every state but its own source (`sameAt_edit`), and so do insertions one after the other
  (`sameAt_insertMany`).
* `determinize_eq_of_sameAt`: relations that have the same transitions in all states of discovered
  sets have the same automaton. This is the law of renaming in which all names are kept.
* `determinize_insertMany_of_unreached`: so insertions whose sources are in no set of the automaton
  leave it as it is, even if they lead into it or bring new symbols.
-/

namespace Determinize

namespace Relation

variable {Q S : Type} [TotalOrd Q] [TotalOrd S] {r r' r'' : Relation Q S} {q : Q}

/-- A state has the same transitions in both relations. -/
structure SameAt (r r' : Relation Q S) (q : Q) : Prop where
  nextStates : ∀ a, r'.nextStates q a = r.nextStates q a
  edgesFrom : r'.edgesFrom q = r.edgesFrom q
  epsilonSuccessors : r'.epsilonSuccessors q = r.epsilonSuccessors q

theorem sameAt_refl (r : Relation Q S) (q : Q) : SameAt r r q :=
  ⟨fun _ => rfl, rfl, rfl⟩

theorem SameAt.trans (h : SameAt r r' q) (h' : SameAt r' r'' q) : SameAt r r'' q where
  nextStates a := (h'.nextStates a).trans (h.nextStates a)
  edgesFrom := h'.edgesFrom.trans h.edgesFrom
  epsilonSuccessors := h'.epsilonSuccessors.trans h.epsilonSuccessors

/-! ### Insertions elsewhere -/

theorem sameAt_addEpsilon {source : Q} (target : Q) (other : q ≠ source) :
    SameAt r (r.addEpsilon source target) q where
  nextStates _ := rfl
  edgesFrom := rfl
  epsilonSuccessors := by simp [epsilonSuccessors, addEpsilon, Index.lookup_add, other]

theorem sameAt_addRegular {t : Transition Q S} (other : q ≠ t.source) :
    SameAt r (r.addRegular t) q where
  nextStates a := by simp [nextStates, addRegular, Index.lookup_add, other]
  edgesFrom := by simp [edgesFrom, addRegular, Index.lookup_add, other]
  epsilonSuccessors := rfl

/-- An insertion changes the transitions of its own source only. -/
theorem sameAt_edit {i : Insertion Q S} (other : q ≠ i.source) : SameAt r (r.edit i.edit) q := by
  rcases edit_insertion_cases r i with ⟨target, -, -, hedit⟩ | ⟨a, target, -, -, hedit⟩
  · rw [hedit]
    exact sameAt_addEpsilon target other
  · rw [hedit]
    exact sameAt_addRegular other

theorem sameAt_insertMany {insertions : List (Insertion Q S)}
    (other : ∀ i ∈ insertions, q ≠ i.source) : SameAt r (r.insertMany insertions) q := by
  induction insertions generalizing r with
  | nil => exact sameAt_refl r q
  | cons i insertions ih =>
    have first : SameAt r (r.edit i.edit) q := sameAt_edit (other i List.mem_cons_self)
    have later : SameAt (r.edit i.edit) ((r.edit i.edit).insertMany insertions) q := by
      apply ih
      intro j hj
      exact other j (List.mem_cons_of_mem _ hj)
    exact first.trans later

/-! ### The construction -/

/-- A state with the same transitions is one whose names are kept. -/
theorem SameAt.renamedAt (h : SameAt r r' q) : RenamedAt id id r r' q where
  nextStates a := (h.nextStates a).trans (SortedSet.map_id _).symm
  edgesFrom := h.edgesFrom.trans (SortedSet.map_id _).symm
  epsilonSuccessors := h.epsilonSuccessors.trans (SortedSet.map_id _).symm

/-- The automaton depends only on the transitions of states in discovered sets. -/
theorem determinize_eq_of_sameAt {start : Q}
    (same : ∀ states, Discovered r start states → ∀ q ∈ states, SameAt r r' q) :
    r'.determinize start = r.determinize start := by
  have h : Corresponds r start r' start (SortedSet.map id) id :=
    corresponds_of_renamed fun states hdisc q hq => (same states hdisc q hq).renamedAt
  rw [show SortedSet.map (id : Q → Q) = id from funext SortedSet.map_id] at h
  exact h.determinize_eq

/-- **Unreached states do not matter.** Insertions whose sources are in no set of the automaton
leave the automaton as it is, whatever their targets and symbols are. -/
theorem determinize_insertMany_of_unreached (r : Relation Q S) (start : Q)
    (additions : List (Insertion Q S))
    (unreached : ∀ i ∈ additions, ∀ states ∈ (r.determinize start).states, ¬ i.source ∈ states) :
    (r.insertMany additions).determinize start = r.determinize start := by
  apply determinize_eq_of_sameAt
  intro states hdisc q hq
  apply sameAt_insertMany
  rintro i hi rfl
  exact unreached i hi states (mem_states_determinize_iff.mpr hdisc) hq

end Relation

namespace Demo

/-- Transitions that lead from new states into the demo, on a symbol of the demo, on epsilon and
on a new symbol. -/
def additions : List (Insertion Nat Char) :=
  [.add ⟨20, 'a', 1⟩, .add ⟨21, ' ', 20⟩, .addEpsilon 20 4, .add ⟨22, 'z', 22⟩]

end Demo

/-- The states 20 to 22 are in no set of the demo's automaton, so it stays the same. -/
theorem Relation.determinize_insertMany_of_unreached_demo :
    (∀ i ∈ Demo.additions, ∀ states ∈ (Demo.relation.determinize Demo.start).states.toList,
      ¬ i.source ∈ states) ∧
    (Demo.relation.insertMany Demo.additions).determinize Demo.start =
      Demo.relation.determinize Demo.start := by
  have unreached : ∀ i ∈ Demo.additions,
      ∀ states ∈ (Demo.relation.determinize Demo.start).states.toList, ¬ i.source ∈ states := by
    decide +kernel
  exact ⟨unreached, Relation.determinize_insertMany_of_unreached _ _ _ unreached⟩

end Determinize
