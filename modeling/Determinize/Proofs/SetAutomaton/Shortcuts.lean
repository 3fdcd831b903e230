import Determinize.Proofs.SetAutomaton.Correspondence
import Determinize.Relation.Insertion

/-!
Epsilon transitions that lead where epsilon transitions lead anyway.

* `SameReach` says that two relations have the same regular transitions and reach the same states by
  epsilon transitions, whichever these are. Then closures (`SameReach.epsilonClosure_eq`) and automata
  (`SameReach.determinize_eq`) are the same, because neither depends on the way a search takes.
* `sameReach_addEpsilon`: a shortcut, that is an epsilon transition to a state in the closure of its
  source, keeps what is reached. The induction follows the new path and goes the old way wherever it
  takes the shortcut. `sameReach_addEpsilonMany` is its form for many shortcuts.
* `saturate` adds all shortcuts between given states; then one epsilon transition does what any
  number did before (`epsilonSuccessors_saturate`).
-/

namespace Determinize

variable {Q S : Type} [TotalOrd Q] [TotalOrd S]

namespace Relation

variable {r r' r'' : Relation Q S} {p q m n : Q} {pairs : List (Q × Q)}

/-! ### Relations that reach the same -/

/-- The regular transitions are the same, and so are the states that epsilon transitions reach. -/
structure SameReach (r r' : Relation Q S) : Prop where
  next : r'.next = r.next
  edges : r'.edges = r.edges
  reachable_iff : ∀ p q, EpsilonReachable r' p q ↔ EpsilonReachable r p q

theorem sameReach_refl (r : Relation Q S) : SameReach r r := ⟨rfl, rfl, fun _ _ => Iff.rfl⟩

theorem SameReach.trans (h : SameReach r r') (h' : SameReach r' r'') : SameReach r r'' where
  next := h'.next.trans h.next
  edges := h'.edges.trans h.edges
  reachable_iff p q := (h'.reachable_iff p q).trans (h.reachable_iff p q)

theorem SameReach.epsilonClosure_eq (h : SameReach r r') (states : StateSet Q) :
    r'.epsilonClosure states = r.epsilonClosure states := by
  ext q
  simp only [mem_epsilonClosure_iff, h.reachable_iff]

theorem SameReach.edgesFromSet_eq (h : SameReach r r') (states : StateSet Q) :
    r'.edgesFromSet states = r.edgesFromSet states := by
  ext a
  simp only [mem_edgesFromSet, edgesFrom, h.edges]

theorem SameReach.nextStatesFromSet_eq (h : SameReach r r') (states : StateSet Q) (a : S) :
    r'.nextStatesFromSet states a = r.nextStatesFromSet states a := by
  ext q
  simp only [mem_nextStatesFromSet, nextStates, h.next]

theorem SameReach.corresponds (h : SameReach r r') (start : Q) :
    Corresponds r start r' start id id where
  initial := h.epsilonClosure_eq (.singleton start)
  readable states _ b := by simp [h.edgesFromSet_eq states]
  step states _ a _ := by
    simp only [id, stepSet]
    rw [h.nextStatesFromSet_eq, h.epsilonClosure_eq]

/-- The automaton does not show which epsilon transitions there are, only what they reach. -/
theorem SameReach.determinize_eq (h : SameReach r r') (start : Q) :
    r'.determinize start = r.determinize start := (h.corresponds start).determinize_eq

/-! ### Shortcuts -/

theorem mem_epsilonSuccessors_addEpsilon :
    n ∈ (r.addEpsilon p q).epsilonSuccessors m ↔ (m = p ∧ n = q) ∨ n ∈ r.epsilonSuccessors m :=
  Index.mem_lookup_add

/-- A shortcut reaches nothing new. -/
theorem epsilonReachable_addEpsilon_iff (known : EpsilonReachable r p q) :
    EpsilonReachable (r.addEpsilon p q) m n ↔ EpsilonReachable r m n := by
  constructor
  · intro h
    induction h with
    | refl => exact .refl
    | step _ hstep ih =>
      rcases mem_epsilonSuccessors_addEpsilon.mp hstep with ⟨rfl, rfl⟩ | hstep
      · exact EpsilonReachable.trans ih known
      · exact .step ih hstep
  · intro h
    induction h with
    | refl => exact .refl
    | step _ hstep ih => exact .step ih (mem_epsilonSuccessors_addEpsilon.mpr (.inr hstep))

theorem sameReach_addEpsilon (known : EpsilonReachable r p q) :
    SameReach r (r.addEpsilon p q) where
  next := rfl
  edges := rfl
  reachable_iff _ _ := epsilonReachable_addEpsilon_iff known

/-- Adds epsilon transitions one after the other. -/
def addEpsilonMany (r : Relation Q S) (pairs : List (Q × Q)) : Relation Q S :=
  r.insertMany (pairs.map fun pair => .addEpsilon pair.1 pair.2)

theorem addEpsilonMany_cons (r : Relation Q S) (pair : Q × Q) (pairs : List (Q × Q)) :
    r.addEpsilonMany (pair :: pairs) = (r.addEpsilon pair.1 pair.2).addEpsilonMany pairs := rfl

theorem mem_epsilonSuccessors_addEpsilonMany :
    n ∈ (r.addEpsilonMany pairs).epsilonSuccessors m ↔
      (m, n) ∈ pairs ∨ n ∈ r.epsilonSuccessors m := by
  induction pairs generalizing r with
  | nil => exact (or_iff_right List.not_mem_nil).symm
  | cons pair pairs ih =>
    rw [addEpsilonMany_cons, ih, mem_epsilonSuccessors_addEpsilon, List.mem_cons, or_assoc,
      or_left_comm, Prod.ext_iff]

/-- Shortcuts remain shortcuts after each other, so many of them reach nothing new either. -/
theorem sameReach_addEpsilonMany (known : ∀ pair ∈ pairs, EpsilonReachable r pair.1 pair.2) :
    SameReach r (r.addEpsilonMany pairs) := by
  induction pairs generalizing r with
  | nil => exact sameReach_refl r
  | cons pair pairs ih =>
    obtain ⟨first, rest⟩ := List.forall_mem_cons.mp known
    have one : SameReach r (r.addEpsilon pair.1 pair.2) := sameReach_addEpsilon first
    have others : SameReach (r.addEpsilon pair.1 pair.2) (r.addEpsilonMany (pair :: pairs)) := by
      apply ih
      intro next hnext
      exact (one.reachable_iff next.1 next.2).mpr (rest next hnext)
    exact one.trans others

/-! ### All shortcuts -/

/-- The shortcuts from the members of a set. -/
def shortcuts (r : Relation Q S) (within : StateSet Q) : List (Q × Q) :=
  within.toList.flatMap fun p => (r.epsilonClosureOf p).toList.map fun q => (p, q)

theorem mem_shortcuts_iff {within : StateSet Q} :
    (p, q) ∈ r.shortcuts within ↔ p ∈ within ∧ EpsilonReachable r p q := by
  simp [shortcuts, ← SortedSet.mem_def, mem_epsilonClosureOf_iff]

/-- Adds all shortcuts from the members of a set. -/
def saturate (r : Relation Q S) (within : StateSet Q) : Relation Q S :=
  r.addEpsilonMany (r.shortcuts within)

/-- With all shortcuts, one epsilon transition reaches what any number reached before. -/
theorem epsilonSuccessors_saturate {within : StateSet Q} (hp : p ∈ within) :
    (r.saturate within).epsilonSuccessors p = r.epsilonClosureOf p := by
  ext q
  rw [saturate, mem_epsilonSuccessors_addEpsilonMany, mem_shortcuts_iff, mem_epsilonClosureOf_iff]
  constructor
  · rintro (⟨-, reached⟩ | hstep)
    · exact reached
    · exact .step .refl hstep
  · intro reached
    exact .inl ⟨hp, reached⟩

theorem sameReach_saturate (r : Relation Q S) (within : StateSet Q) :
    SameReach r (r.saturate within) :=
  sameReach_addEpsilonMany fun _ hpair => (mem_shortcuts_iff.mp hpair).2

/-- **Shortcuts change nothing.** An epsilon transition to a state in the closure of its source leaves
all closures and automata as they are, and is counted exactly if there was none between the two. The
same holds of any number of such transitions, also of all from the members of a set, after which these
have their closures for epsilon successors. -/
theorem determinize_shortcuts (r : Relation Q S) :
    (∀ p q, q ∈ r.epsilonClosureOf p →
      (∀ states, (r.addEpsilon p q).epsilonClosure states = r.epsilonClosure states) ∧
      (∀ start, (r.addEpsilon p q).determinize start = r.determinize start) ∧
      (r.addEpsilon p q).transitions =
        if q ∈ r.epsilonSuccessors p then r.transitions else r.transitions + 1) ∧
    (∀ pairs : List (Q × Q), (∀ pair ∈ pairs, pair.2 ∈ r.epsilonClosureOf pair.1) →
      (∀ states, (r.addEpsilonMany pairs).epsilonClosure states = r.epsilonClosure states) ∧
      ∀ start, (r.addEpsilonMany pairs).determinize start = r.determinize start) ∧
    ∀ within : StateSet Q,
      (∀ p ∈ within, (r.saturate within).epsilonSuccessors p = r.epsilonClosureOf p) ∧
      (∀ states, (r.saturate within).epsilonClosure states = r.epsilonClosure states) ∧
      ∀ start, (r.saturate within).determinize start = r.determinize start := by
  refine ⟨fun p q hq => ?_, fun pairs hpairs => ?_, fun within => ?_⟩
  · have same := sameReach_addEpsilon (mem_epsilonClosureOf_iff.mp hq)
    exact ⟨same.epsilonClosure_eq, same.determinize_eq, rfl⟩
  · have same := sameReach_addEpsilonMany fun pair hpair =>
      mem_epsilonClosureOf_iff.mp (hpairs pair hpair)
    exact ⟨same.epsilonClosure_eq, same.determinize_eq⟩
  · have same := sameReach_saturate r within
    exact ⟨fun p hp => epsilonSuccessors_saturate hp, same.epsilonClosure_eq, same.determinize_eq⟩

/-- In the demo there is a shortcut from 1 to 3 and a loop at 99, which it does not know. -/
theorem determinize_shortcuts_demo :
    (Demo.relation.addEpsilon 1 3).determinize 1 = Demo.relation.determinize 1 ∧
    (Demo.relation.addEpsilon 1 3).transitions = 8 ∧
    (Demo.relation.addEpsilonMany [(1, 3), (99, 99), (6, 7)]).determinize 99 =
      Demo.relation.determinize 99 ∧
    (Demo.relation.saturate (.ofList [1, 6])).epsilonSuccessors 1 = .ofList [1, 2, 3] := by
  obtain ⟨one, many, all⟩ := determinize_shortcuts Demo.relation
  obtain ⟨-, same, counted⟩ := one 1 3 (by decide +kernel)
  have reached : Demo.relation.epsilonClosureOf 1 = .ofList [1, 2, 3] := by decide +kernel
  refine ⟨same 1, counted.trans (by decide +kernel), (many _ ?_).2 99, ?_⟩
  · decide +kernel
  · rw [(all (.ofList [1, 6])).1 1 (by decide), reached]

end Relation

end Determinize
