import Determinize.Demo
import Determinize.Proofs.Relation.Transitions

/-!
Choosing the epsilon symbol again and again.

* `setEpsilon_cases` says all that a choice of the epsilon symbol can do: nothing, because the
  symbol is the present one; set the symbol of a relation without transitions; or be refused.
* `WellFormed.transitions_pos_iff`: the count is positive exactly if some transition is stored, so
  a relation in which a choice is accepted has classified nothing.
* `replay_eq_insertMany`: a history ends in the relation that its insertions make when the final
  epsilon symbol is there from the start. The induction is on the history from its end, and the
  only edit that can change the symbol of earlier insertions is accepted while there are none.
* `replay_determined` adds when a choice is refused and what is reported then.
-/

namespace Determinize

namespace Relation

open Insertion (regularSet epsilonSet)

variable {Q S : Type} [TotalOrd Q] [TotalOrd S] {r : Relation Q S} {symbol : S}

/-! ### One choice -/

/-- A choice of the epsilon symbol repeats the present one, sets the symbol of a relation without
transitions, or is refused. -/
theorem setEpsilon_cases (r : Relation Q S) (symbol : S) :
    (r.epsilonSymbol = some symbol ∧ r.setEpsilon symbol = .ok r) ∨
    (r.epsilonSymbol ≠ some symbol ∧ r.transitions = 0 ∧
      r.setEpsilon symbol = .ok { r with epsilonSymbol := some symbol }) ∨
    (r.epsilonSymbol ≠ some symbol ∧ 0 < r.transitions ∧
      r.setEpsilon symbol = .error (.epsilonAfterTransitions r.transitions)) := by
  by_cases present : r.epsilonSymbol = some symbol
  · exact .inl ⟨present, if_pos (isEpsilon_iff.mpr present)⟩
  · have other : ¬ r.isEpsilon symbol = true := mt isEpsilon_iff.mp present
    rcases Nat.eq_zero_or_pos r.transitions with none | some
    · refine .inr (.inl ⟨present, none, ?_⟩)
      rw [setEpsilon, if_neg other, if_neg (by omega)]
    · refine .inr (.inr ⟨present, some, ?_⟩)
      rw [setEpsilon, if_neg other, if_pos some]

/-- What is refused is a change while there are transitions, and their number is reported. -/
theorem setEpsilon_eq_error_iff {e : RelationError} :
    r.setEpsilon symbol = .error e ↔
      0 < r.transitions ∧ r.epsilonSymbol ≠ some symbol ∧
        e = .epsilonAfterTransitions r.transitions := by
  rcases setEpsilon_cases r symbol with
    ⟨present, h⟩ | ⟨-, none, h⟩ | ⟨changed, some, h⟩
  · simp [h, present]
  · simp [h, none]
  · simp [h, some, changed, eq_comm]

/-- A refused choice leaves the relation as it is. -/
theorem edit_setEpsilon_of_error {e : RelationError} (refused : r.setEpsilon symbol = .error e) :
    r.edit (.setEpsilon symbol) = r := by
  simp only [edit, refused]

/-! ### Transitions that are present -/

/-- Something is counted exactly if some transition is stored. -/
theorem WellFormed.transitions_pos_iff (wf : r.WellFormed) :
    0 < r.transitions ↔
      ∃ q p, (∃ a, p ∈ r.nextStates q a) ∨ p ∈ r.epsilonSuccessors q := by
  rw [wf.transitions_eq, ← Index.length_contents, ← Index.length_contents, ← List.length_append,
    List.length_pos_iff_exists_mem]
  simp only [List.mem_append, Index.mem_contents_iff, nextStates, epsilonSuccessors]
  constructor
  · rintro ⟨p, ⟨⟨q, a⟩, hp⟩ | ⟨q, hp⟩⟩
    · exact ⟨q, p, .inl ⟨a, hp⟩⟩
    · exact ⟨q, p, .inr hp⟩
  · rintro ⟨q, p, ⟨a, hp⟩ | hp⟩
    · exact ⟨p, .inl ⟨(q, a), hp⟩⟩
    · exact ⟨p, .inr ⟨q, hp⟩⟩

/-- An insertion leaves something to be counted. -/
theorem transitions_insertMany_pos (epsilon : Option S) {insertions : List (Insertion Q S)}
    {i : Insertion Q S} (hi : i ∈ insertions) :
    0 < ((empty epsilon).insertMany insertions).transitions := by
  have holds := holds_insertMany epsilon insertions
  apply (wellFormed_insertMany epsilon insertions).transitions_pos_iff.mpr
  rcases edit_insertion_cases (empty epsilon) i with
    ⟨target, -, silent, -⟩ | ⟨a, target, regular, -, -⟩
  · have inserted : (i.source, target) ∈ epsilonSet epsilon insertions :=
      SortedSet.mem_ofList.mpr (List.mem_filterMap.mpr ⟨i, hi, silent⟩)
    exact ⟨i.source, target, .inr ((holds.mem_epsilonSuccessors _ _).mpr inserted)⟩
  · have inserted : (i.source, a, target) ∈ regularSet epsilon insertions :=
      SortedSet.mem_ofList.mpr (List.mem_filterMap.mpr ⟨i, hi, regular⟩)
    exact ⟨i.source, target, .inl ⟨a, (holds.mem_nextStates _ _ _).mpr inserted⟩⟩

/-! ### Histories -/

/-- An edit of a relation that is made by insertions makes the same relation as one more insertion,
or none, under the epsilon symbol that the edit leaves. -/
theorem edit_eq_insertMany {insertions : List (Insertion Q S)}
    (made : r = (empty r.epsilonSymbol).insertMany insertions) (e : Edit Q S) :
    r.edit e =
      (empty (r.edit e).epsilonSymbol).insertMany (insertions ++ e.insertion?.toList) := by
  have insert : ∀ i : Insertion Q S, r.edit i.edit =
      (empty (r.edit i.edit).epsilonSymbol).insertMany (insertions ++ [i]) := by
    intro i
    rw [epsilonSymbol_edit, insertMany_append, ← made]
    rfl
  cases e with
  | add t => exact insert (.add t)
  | addEpsilon source target => exact insert (.addEpsilon source target)
  | setEpsilon symbol =>
    simp only [edit, Edit.insertion?, Option.toList_none, List.append_nil]
    rcases setEpsilon_cases r symbol with ⟨-, h⟩ | ⟨-, none, h⟩ | ⟨-, -, h⟩
    · rw [h]
      exact made
    · -- nothing has been classified under the earlier symbol, so there was no insertion
      have nothing : insertions = [] := by
        apply List.eq_nil_iff_forall_not_mem.mpr
        intro i hi
        have counted := transitions_insertMany_pos r.epsilonSymbol hi
        rw [← made] at counted
        omega
      subst nothing
      rw [h, made]
      rfl
    · rw [h]
      exact made

theorem replay_eq_insertMany_append (insertions : List (Insertion Q S))
    (made : r = (empty r.epsilonSymbol).insertMany insertions) (edits : List (Edit Q S)) :
    r.replay edits =
      (empty (r.replay edits).epsilonSymbol).insertMany (insertions ++ Edit.insertions edits) := by
  induction edits generalizing r insertions with
  | nil => simpa [Edit.insertions] using made
  | cons e edits ih =>
    have later := ih _ (edit_eq_insertMany made e)
    rw [List.append_assoc] at later
    have listed : Edit.insertions (e :: edits) = e.insertion?.toList ++ Edit.insertions edits := by
      cases h : e.insertion? <;> simp [Edit.insertions, h]
    rw [listed]
    exact later

/-- A history makes the same relation as its insertions alone, if the epsilon symbol that it ends
with is there from the start. -/
theorem replay_eq_insertMany (epsilon : Option S) (edits : List (Edit Q S)) :
    (empty epsilon).replay edits =
      (empty ((empty epsilon : Relation Q S).replay edits).epsilonSymbol).insertMany
        (Edit.insertions edits) :=
  replay_eq_insertMany_append [] rfl edits

/-- **Late choices of the epsilon symbol misclassify nothing.** A history of insertions and choices
of the epsilon symbol, some of them refused, ends in the relation that the insertions make when the
final symbol is there from the start. The next choice is refused exactly if it is a change and
there is some transition; then the number of distinct transitions is reported and nothing else
happens. -/
theorem replay_determined (epsilon : Option S) (edits : List (Edit Q S)) :
    let r := (empty epsilon).replay edits
    let inserted := Edit.insertions edits
    r = (empty r.epsilonSymbol).insertMany inserted ∧
    ∀ symbol,
      ((∃ e, r.setEpsilon symbol = .error e) ↔
        (∃ q p, (∃ a, p ∈ r.nextStates q a) ∨ p ∈ r.epsilonSuccessors q) ∧
          r.epsilonSymbol ≠ some symbol) ∧
      ∀ e, r.setEpsilon symbol = .error e →
        e = .epsilonAfterTransitions ((regularSet r.epsilonSymbol inserted).size +
          (epsilonSet r.epsilonSymbol inserted).size) ∧
        r.edit (.setEpsilon symbol) = r := by
  intro r inserted
  have made : r = (empty r.epsilonSymbol).insertMany inserted := replay_eq_insertMany epsilon edits
  have wf : r.WellFormed := (wellFormed_empty epsilon).replay edits
  have counted := (holds_insertMany r.epsilonSymbol inserted).transitions_eq
  rw [← made] at counted
  refine ⟨made, fun symbol => ⟨?_, ?_⟩⟩
  · rw [← wf.transitions_pos_iff]
    constructor
    · rintro ⟨e, refused⟩
      obtain ⟨some, changed, -⟩ := setEpsilon_eq_error_iff.mp refused
      exact ⟨some, changed⟩
    · rintro ⟨some, changed⟩
      exact ⟨_, setEpsilon_eq_error_iff.mpr ⟨some, changed, rfl⟩⟩
  · intro e refused
    obtain ⟨-, -, rfl⟩ := setEpsilon_eq_error_iff.mp refused
    exact ⟨congrArg _ counted, edit_setEpsilon_of_error refused⟩

end Relation

namespace Demo

/-- Two choices of the epsilon symbol before the first transition, a refused one after it and a
repeated one at the end. -/
def edits : List (Edit Nat Char) := [
  .setEpsilon 'a', .setEpsilon ' ', .add ⟨1, 'a', 2⟩, .setEpsilon 'a', .add ⟨1, ' ', 2⟩,
  .addEpsilon 1 2, .setEpsilon ' ']

end Demo

/-- The space is the final choice, so `a` was regular throughout; two transitions refuse a change
to `a`. -/
theorem Relation.replay_determined_demo :
    let r := withoutEpsilon.replay Demo.edits
    r = (withEpsilon ' ').insertMany [.add ⟨1, 'a', 2⟩, .add ⟨1, ' ', 2⟩, .addEpsilon 1 2] ∧
      r.setEpsilon 'a' = .error (.epsilonAfterTransitions 2) ∧ r.edit (.setEpsilon 'a') = r := by
  intro r
  obtain ⟨made, choice⟩ := Relation.replay_determined none Demo.edits
  have refused : r.setEpsilon 'a' = .error (.epsilonAfterTransitions 2) := rfl
  exact ⟨made, refused, ((choice 'a').2 _ refused).2⟩

end Determinize
