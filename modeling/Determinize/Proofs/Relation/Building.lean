import Determinize.Proofs.Relation.Insertions
import Determinize.Relation.BuilderCall

/-!
Building a relation from collected transitions.

* `choice_call` and `mem_insertions_call` say what one call does to a builder: a choice replaces the
  earlier one, and transitions are added to those that wait. `epsilonSymbol_after` and
  `mem_insertions_after` follow by induction on the calls.
* `build_eq`: building carries out what is collected under the choice, regular and epsilon
  transitions in their own order. `insertMany_eq_of_mem_iff` makes this order irrelevant.
* `build_determined`: so a list of calls builds a relation exactly if it makes a choice, and the
  last choice and the collected transitions determine the relation.
-/

namespace Determinize

variable {Q S : Type}

open BuilderCall (lastChoice? collected)

namespace Builder

/-! ### One call -/

/-- The insertions that wait for the choice of the epsilon symbol, the regular ones first. -/
def insertions (b : Builder Q S) : List (Insertion Q S) :=
  b.transitions.map .add ++ b.epsilonTransitions.map fun p => .addEpsilon p.1 p.2

variable {b : Builder Q S} {i : Insertion Q S}

theorem edits_eq : b.edits = b.insertions.map Insertion.edit := by
  rw [edits, insertions, List.map_append, List.map_map, List.map_map]
  rfl

/-- A call adds the insertions that it asks for to those that wait. -/
theorem mem_insertions_call (c : BuilderCall Q S) :
    i ∈ (b.call c).insertions ↔ i ∈ b.insertions ∨ i ∈ c.insertions := by
  have nothing : ∀ {p : Prop}, p ↔ p ∨ i ∈ ([] : List (Insertion Q S)) := by simp
  cases c with
  | epsilon symbol => exact nothing
  | withoutEpsilon => exact nothing
  | clone => exact nothing
  | transition t =>
    simp only [call, Builder.transition, withTransitions, insertions, BuilderCall.insertions,
      List.map_append, List.map_cons, List.map_nil, List.mem_append]
    exact or_right_comm
  | withTransitions ts =>
    simp only [call, withTransitions, insertions, BuilderCall.insertions, List.map_append,
      List.mem_append]
    exact or_right_comm
  | withEpsilonTransitions pairs =>
    simp only [call, withEpsilonTransitions, insertions, BuilderCall.insertions, List.map_append,
      List.mem_append, or_assoc]

/-- A choice replaces the earlier one, and any other call keeps it. -/
theorem epsilonSymbol_call (c : BuilderCall Q S) :
    (b.call c).epsilonSymbol = c.choice?.elim b.epsilonSymbol .ok := by
  cases c <;> rfl

/-! ### Lists of calls -/

theorem after_concat (calls : List (BuilderCall Q S)) (c : BuilderCall Q S) :
    after (calls ++ [c]) = (after calls).call c := by
  rw [after, List.foldl_append]
  rfl

/-- What waits after some calls are the insertions that they ask for. -/
theorem mem_insertions_after {calls : List (BuilderCall Q S)} :
    i ∈ (after calls).insertions ↔ i ∈ collected calls := by
  induction calls using List.reverseRecOn with
  | nil => rfl
  | append_singleton calls c ih =>
    rw [after_concat, mem_insertions_call, ih, collected, collected, List.flatMap_append,
      List.mem_append, List.flatMap_singleton]

/-- What counts after some calls is the last choice among them. -/
theorem epsilonSymbol_after (calls : List (BuilderCall Q S)) :
    (after calls).epsilonSymbol = (lastChoice? calls).elim (.error .missingEpsilon) .ok := by
  induction calls using List.reverseRecOn with
  | nil => rfl
  | append_singleton calls c ih =>
    rw [after_concat, epsilonSymbol_call, ih, lastChoice?, lastChoice?, List.filterMap_append]
    cases h : c.choice? <;> simp [h]

end Builder

/-- There is no last choice exactly if no call makes a choice. -/
theorem BuilderCall.lastChoice?_eq_none_iff {calls : List (BuilderCall Q S)} :
    lastChoice? calls = none ↔
      (∀ symbol, ¬ .epsilon symbol ∈ calls) ∧ ¬ .withoutEpsilon ∈ calls := by
  rw [lastChoice?, List.getLast?_eq_none_iff, List.filterMap_eq_nil_iff]
  constructor
  · intro undecided
    exact ⟨fun symbol hc => Option.some_ne_none _ (undecided _ hc),
      fun hc => Option.some_ne_none _ (undecided _ hc)⟩
  · rintro ⟨noSymbol, notAbsent⟩ c hc
    cases c with
    | epsilon symbol => exact absurd hc (noSymbol symbol)
    | withoutEpsilon => exact absurd hc notAbsent
    | _ => rfl

/-! ### Building -/

variable [TotalOrd Q] [TotalOrd S]

namespace Relation

/-- Insertions with the same members make the same relation. -/
theorem insertMany_eq_of_mem_iff (epsilon : Option S)
    {insertions insertions' : List (Insertion Q S)}
    (same : ∀ i, i ∈ insertions ↔ i ∈ insertions') :
    (empty epsilon).insertMany insertions = (empty epsilon).insertMany insertions' := by
  have listed : ∀ {α : Type} [TotalOrd α] (f : Insertion Q S → Option α),
      SortedSet.ofList (insertions.filterMap f) = SortedSet.ofList (insertions'.filterMap f) := by
    intro α _ f
    ext x
    simp only [SortedSet.mem_ofList, List.mem_filterMap, same]
  exact insertMany_eq_of_same (listed _) (listed _)

end Relation

namespace Builder

/-- Building carries out what waits under the choice that has been made. -/
theorem build_eq (b : Builder Q S) :
    b.build =
      b.epsilonSymbol.map fun symbol => (Relation.empty symbol).insertMany b.insertions := by
  rw [build, edits_eq]
  rfl

theorem build_after_of_none {calls : List (BuilderCall Q S)}
    (undecided : lastChoice? calls = none) :
    (after calls).build = .error .missingEpsilon := by
  rw [build_eq, epsilonSymbol_after, undecided]
  rfl

theorem build_after_of_some {calls : List (BuilderCall Q S)} {choice : Option S}
    (decided : lastChoice? calls = some choice) :
    (after calls).build = .ok ((Relation.empty choice).insertMany (collected calls)) := by
  rw [build_eq, epsilonSymbol_after, decided,
    ← Relation.insertMany_eq_of_mem_iff choice fun _ => mem_insertions_after]
  rfl

/-- **The order of the calls of a builder does not matter.** Building fails exactly if no call
chooses the epsilon symbol or declines it. Otherwise the last choice counts for all transitions, and
the built relation answers like one in which the collected transitions are inserted in any order
with this choice made at the start; hence like the relation that any other calls build which end in
the same choice and collect the same transitions. -/
theorem build_determined (calls : List (BuilderCall Q S)) :
    ((after calls).build = .error .missingEpsilon ↔
      (∀ symbol, ¬ .epsilon symbol ∈ calls) ∧ ¬ .withoutEpsilon ∈ calls) ∧
    ((∃ symbol, .epsilon symbol ∈ calls) ∨ .withoutEpsilon ∈ calls →
      ∃ choice r, lastChoice? calls = some choice ∧ (after calls).build = .ok r ∧
        (∀ insertions, (∀ i, i ∈ insertions ↔ i ∈ collected calls) →
          r.SameAnswers ((Relation.empty choice).insertMany insertions)) ∧
        ∀ calls', lastChoice? calls' = some choice →
          (∀ i, i ∈ collected calls' ↔ i ∈ collected calls) →
          ∃ r', (after calls').build = .ok r' ∧ r.SameAnswers r') := by
  rw [← BuilderCall.lastChoice?_eq_none_iff]
  cases decided : lastChoice? calls with
  | none =>
    refine ⟨iff_of_true (build_after_of_none decided) rfl, ?_⟩
    obtain ⟨noSymbol, notAbsent⟩ := BuilderCall.lastChoice?_eq_none_iff.mp decided
    rintro (⟨symbol, hc⟩ | hc)
    · exact absurd hc (noSymbol symbol)
    · exact absurd hc notAbsent
  | some choice =>
    have built := build_after_of_some decided
    refine ⟨iff_of_false (by simp [built]) (by simp), fun _ => ⟨choice, _, rfl, built, ?_, ?_⟩⟩
    · intro insertions same
      rw [Relation.insertMany_eq_of_mem_iff choice same]
      exact Relation.sameAnswers_refl _
    · intro calls' decided' same
      refine ⟨_, build_after_of_some decided', ?_⟩
      rw [Relation.insertMany_eq_of_mem_iff choice same]
      exact Relation.sameAnswers_refl _

end Builder

namespace Demo

/-- Calls in which transitions come before, between and after three choices. -/
def builderCalls : List (BuilderCall Nat Char) := [
  .transition ⟨1, ' ', 2⟩, .epsilon 'b', .withEpsilonTransitions [(2, 3)], .withoutEpsilon, .clone,
  .withTransitions [⟨1, 'b', 4⟩, ⟨1, ' ', 2⟩], .epsilon ' ']

/-- Other calls that end in the same choice and collect the same transitions. -/
def otherBuilderCalls : List (BuilderCall Nat Char) := [
  .epsilon ' ', .withEpsilonTransitions [(2, 3), (2, 3)], .clone, .transition ⟨1, 'b', 4⟩,
  .transition ⟨1, ' ', 2⟩]

end Demo

/-- Both lists of calls build relations with the same automaton, in which the space is silent. -/
theorem Builder.build_determined_demo :
    ∃ r r' : Relation Nat Char, (after Demo.builderCalls).build = .ok r ∧
      (after Demo.otherBuilderCalls).build = .ok r' ∧
      r.SameAnswers ((Relation.withEpsilon ' ').insertMany Demo.insertions) ∧
      r.determinize 1 = r'.determinize 1 := by
  have decided : lastChoice? Demo.builderCalls = some (some ' ') := rfl
  have decided' : lastChoice? Demo.otherBuilderCalls = some (some ' ') := rfl
  have collects : ∀ i, i ∈ collected Demo.builderCalls ↔
      i = .add ⟨1, ' ', 2⟩ ∨ i = .add ⟨1, 'b', 4⟩ ∨ i = .addEpsilon 2 3 := by
    intro i
    simp only [collected, Demo.builderCalls, BuilderCall.insertions, List.flatMap_cons,
      List.flatMap_nil, List.map_cons, List.map_nil, List.mem_append, List.mem_cons]
    grind
  have collects' : ∀ i, i ∈ collected Demo.otherBuilderCalls ↔ i ∈ collected Demo.builderCalls := by
    intro i
    rw [collects]
    simp only [collected, Demo.otherBuilderCalls, BuilderCall.insertions, List.flatMap_cons,
      List.flatMap_nil, List.map_cons, List.map_nil, List.mem_append, List.mem_cons]
    grind
  have inserts : ∀ i, i ∈ Demo.insertions ↔ i ∈ collected Demo.builderCalls := by
    intro i
    rw [collects]
    simp only [Demo.insertions, List.mem_cons]
    grind
  obtain ⟨choice, r, last, built, answers, others⟩ :=
    (Builder.build_determined Demo.builderCalls).2 (.inl ⟨' ', by simp [Demo.builderCalls]⟩)
  obtain rfl : some ' ' = choice := Option.some.inj (decided.symm.trans last)
  obtain ⟨r', built', same⟩ := others Demo.otherBuilderCalls decided' collects'
  exact ⟨r, r', built, built', answers Demo.insertions inserts, same.determinize 1⟩

end Determinize
