import Determinize.Proofs.Relation.Transitions
import Determinize.Proofs.SetAutomaton.Language

/-!
Relations that have all transitions of another one.

* `Included.path`: paths stay paths. So the subset construction of the larger relation reads every
  word that the other one reads, and reaches at least the same states (`Included.run?`).
* `Included.transitions_le`: the larger relation does not count fewer transitions.
* `included_addMany`: a relation is included in one to which at least the same transitions were
  added.
-/

namespace Determinize.Relation

variable {Q S : Type} [TotalOrd Q] [TotalOrd S] {r r' : Relation Q S}

/-- Every transition of `r` is a transition of `r'`. -/
structure Included (r r' : Relation Q S) : Prop where
  nextStates : ∀ (q : Q) (a : S), ∀ p ∈ r.nextStates q a, p ∈ r'.nextStates q a
  epsilonSuccessors : ∀ q : Q, ∀ p ∈ r.epsilonSuccessors q, p ∈ r'.epsilonSuccessors q

namespace Included

theorem path (h : Included r r') {p q : Q} {word : List S} (path : Path r p word q) :
    Path r' p word q := by
  induction path with
  | refl => exact .refl
  | epsilon hstep _ ih => exact .epsilon (h.epsilonSuccessors _ _ hstep) ih
  | symbol hstep _ ih => exact .symbol (h.nextStates _ _ _ hstep) ih

/-- A word that can be read leads to at least the same states. -/
theorem run? (h : Included r r') (wf : r.WellFormed) (wf' : r'.WellFormed) {start : Q}
    {word : List S} {reached : StateSet Q} (run : (r.determinize start).run? word = some reached) :
    ∃ reached', (r'.determinize start).run? word = some reached' ∧ ∀ q ∈ reached, q ∈ reached' := by
  obtain ⟨⟨q, hq⟩, members⟩ := wf.run?_eq_some_iff.mp run
  cases run' : (r'.determinize start).run? word with
  | none => exact absurd (h.path hq) (wf'.run?_eq_none_iff.mp run' q)
  | some reached' =>
    refine ⟨reached', rfl, fun p hp => ?_⟩
    exact ((wf'.run?_eq_some_iff.mp run').2 p).mpr (h.path ((members p).mp hp))

theorem transitions_le (h : Included r r') {regular regular' : SortedSet (Q × S × Q)}
    {silent silent' : SortedSet (Q × Q)} (holds : r.Holds regular silent)
    (holds' : r'.Holds regular' silent') : r.transitions ≤ r'.transitions := by
  have regularSize : regular.size ≤ regular'.size := by
    refine SortedSet.size_le_length fun ⟨q, a, p⟩ hp => ?_
    exact (holds'.mem_nextStates q a p).mp
      (h.nextStates q a p ((holds.mem_nextStates q a p).mpr hp))
  have silentSize : silent.size ≤ silent'.size := by
    refine SortedSet.size_le_length fun ⟨q, p⟩ hp => ?_
    exact (holds'.mem_epsilonSuccessors q p).mp
      (h.epsilonSuccessors q p ((holds.mem_epsilonSuccessors q p).mpr hp))
  rw [holds.transitions_eq, holds'.transitions_eq]
  exact Nat.add_le_add regularSize silentSize

end Included

theorem included_addMany {ts ts' : List (Transition Q S)} (sub : ts ⊆ ts') (epsilon : Option S) :
    Included ((empty epsilon).addMany ts) ((empty epsilon).addMany ts') where
  nextStates q a p hp := by
    rw [mem_nextStates_addMany] at hp ⊢
    exact ⟨hp.1, sub hp.2⟩
  epsilonSuccessors q p hp := by
    rw [mem_epsilonSuccessors_addMany] at hp ⊢
    obtain ⟨a, silent, ht⟩ := hp
    exact ⟨a, silent, sub ht⟩

end Determinize.Relation
