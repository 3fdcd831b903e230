import Determinize.Proofs.Relation.Closure
import Determinize.SetAutomaton.Construction

/-!
Queries about sets of states, and unions.

* `gatherTargets` and `gatherReadable` answer the queries about a set state by state, passing over the
  states under which nothing is filed. They give the union of the answers for the members
  (`gatherTargets_eq_nextStatesFromSet`, `gatherReadable_eq_edgesFromSet`).
* `epsilonClosure_union`, `stepSet_union`: closing the union of two sets finds what closing each of
  them finds, although it is one search with one stack. So the step of the construction distributes
  over unions.
* `set_queries_agree` collects this for the relations that a program can come to hold, in which a
  symbol can be read exactly where it leads somewhere.
-/

namespace Determinize

namespace Relation

variable {Q S : Type} [TotalOrd Q] [TotalOrd S] {r : Relation Q S} {states : StateSet Q} {q : Q}
  {a : S}

/-! ### Answers gathered state by state -/

/-- The targets on a symbol, gathered from the members of a set one after the other. -/
def gatherTargets (r : Relation Q S) (states : StateSet Q) (symbol : S) : StateSet Q :=
  states.toList.foldl
    (fun gathered state =>
      match r.next.find? (state, symbol) with
      | some targets => gathered ∪ targets
      | none => gathered)
    ∅

/-- The symbols of the members of a set, listed one member after the other. -/
def gatherReadable (r : Relation Q S) (states : StateSet Q) : SortedSet S :=
  .ofList ((states.toList.filterMap r.edges.find?).flatMap SortedSet.toList)

theorem mem_gatherTargets :
    q ∈ r.gatherTargets states a ↔ ∃ p ∈ states, q ∈ r.nextStates p a := by
  refine Iff.trans (SortedSet.mem_foldl ?_) (or_iff_right (SortedSet.not_mem_empty q))
  intro gathered p q
  rw [nextStates, Index.mem_lookup_iff]
  cases r.next.find? (p, a) with
  | none => simp
  | some targets => simp

theorem gatherTargets_eq_nextStatesFromSet (r : Relation Q S) (states : StateSet Q) (a : S) :
    r.gatherTargets states a = r.nextStatesFromSet states a := by
  ext q
  rw [mem_gatherTargets, mem_nextStatesFromSet]

theorem gatherReadable_eq_edgesFromSet (r : Relation Q S) (states : StateSet Q) :
    r.gatherReadable states = r.edgesFromSet states := by
  ext a
  simp only [gatherReadable, SortedSet.mem_ofList, List.mem_flatMap, List.mem_filterMap,
    mem_edgesFromSet, edgesFrom, Index.mem_lookup_iff, ← SortedSet.mem_def]
  constructor
  · rintro ⟨found, ⟨p, hp, filed⟩, ha⟩
    exact ⟨p, hp, found, filed, ha⟩
  · rintro ⟨p, hp, found, filed, ha⟩
    exact ⟨found, ⟨p, hp, filed⟩, ha⟩

/-! ### Unions -/

theorem nextStatesFromSet_union (states others : StateSet Q) (a : S) :
    r.nextStatesFromSet (states ∪ others) a =
      r.nextStatesFromSet states a ∪ r.nextStatesFromSet others a :=
  SortedSet.flatMap_union ..

/-- One search from two sets finds what two searches find. -/
theorem epsilonClosure_union (states others : StateSet Q) :
    r.epsilonClosure (states ∪ others) = r.epsilonClosure states ∪ r.epsilonClosure others := by
  ext q
  simp only [SortedSet.mem_union, mem_epsilonClosure_iff, or_and_right, exists_or]

theorem stepSet_union (states others : StateSet Q) (a : S) :
    r.stepSet (states ∪ others) a = r.stepSet states a ∪ r.stepSet others a := by
  rw [stepSet, nextStatesFromSet_union, epsilonClosure_union]
  rfl

/-- **Queries about sets are unions.** What is reached from a set by a symbol, and what can be read
there, are the unions of the answers for its members, gathered one after the other. A symbol can be
read in a set exactly if it leads somewhere, and the step of the construction distributes over
unions. -/
theorem set_queries_agree (h : r.Reachable) (states others : StateSet Q) (a : S) :
    r.gatherTargets states a = r.nextStatesFromSet states a ∧
    (∀ q, q ∈ r.nextStatesFromSet states a ↔ ∃ p ∈ states, q ∈ r.nextStates p a) ∧
    r.gatherReadable states = r.edgesFromSet states ∧
    (∀ b, b ∈ r.edgesFromSet states ↔ ∃ p ∈ states, b ∈ r.edgesFrom p) ∧
    (a ∈ r.edgesFromSet states ↔ r.nextStatesFromSet states a ≠ ∅) ∧
    r.epsilonClosure (r.nextStatesFromSet (states ∪ others) a) =
      r.epsilonClosure (r.nextStatesFromSet states a) ∪
        r.epsilonClosure (r.nextStatesFromSet others a) := by
  refine ⟨gatherTargets_eq_nextStatesFromSet r states a, fun _ => mem_nextStatesFromSet,
    gatherReadable_eq_edgesFromSet r states, fun _ => mem_edgesFromSet, ?_,
    stepSet_union states others a⟩
  rw [SortedSet.ne_empty_iff]
  exact h.wellFormed.mem_edgesFromSet_iff

/-- In the demo `a` leads from 4 to 5, 6 and, by an epsilon transition, to 7. Neither 2 nor 9, which
the demo does not know, adds anything to that. -/
theorem set_queries_agree_demo :
    Demo.relation.Reachable ∧
    Demo.relation.gatherTargets (.ofList [2, 4, 9]) 'a' = .ofList [5, 6] ∧
    'a' ∈ Demo.relation.edgesFromSet (.ofList [2, 4, 9]) ∧
    Demo.relation.epsilonClosure
      (Demo.relation.nextStatesFromSet (.ofList [2, 4] ∪ .ofList [4, 9]) 'a') =
        .ofList [5, 6, 7] ∪ .ofList [5, 6, 7] := by
  obtain ⟨gathered, -, -, -, readable, -⟩ :=
    set_queries_agree Demo.reachable_relation (.ofList [2, 4, 9]) ∅ 'a'
  obtain ⟨-, -, -, -, -, union⟩ :=
    set_queries_agree Demo.reachable_relation (.ofList [2, 4]) (.ofList [4, 9]) 'a'
  have targets : Demo.relation.nextStatesFromSet (.ofList [2, 4, 9]) 'a' = .ofList [5, 6] := by
    decide +kernel
  refine ⟨Demo.reachable_relation, gathered.trans targets, readable.mpr ?_, union.trans ?_⟩
  · rw [targets]
    decide
  · decide +kernel

end Relation

end Determinize
