import Determinize.Proofs.Relation.Transitions
import Determinize.Proofs.SetAutomaton.Correspondence

/-!
Determinizing an automaton that is deterministic already.

The edges of an automaton are the transitions of a relation whose states are sets of states
(`transitions`). A relation that is made by adding these edges has no epsilon transitions, and from
a discovered set it has one target on each symbol that can be read there. So its construction makes
every discovered set `V` into the set `{V}` (`corresponds_singleton`), and `determinize_determinize`
concludes that determinizing a second time changes nothing but that.
-/

namespace Determinize

variable {Q S : Type} [TotalOrd Q] [TotalOrd S]

/-- The edges of an automaton as transitions between its sets. -/
def SetAutomaton.transitions (a : SetAutomaton Q S) : List (Transition (StateSet Q) S) :=
  a.edges.toList.map fun e => ⟨e.source, e.symbol, e.target⟩

theorem SetAutomaton.mem_transitions {a : SetAutomaton Q S} {source target : StateSet Q}
    {symbol : S} : ⟨source, symbol, target⟩ ∈ a.transitions ↔ ⟨source, symbol, target⟩ ∈ a.edges := by
  rw [transitions, List.mem_map]
  constructor
  · rintro ⟨e, he, same⟩
    cases same
    exact he
  · intro he
    exact ⟨_, he, rfl⟩

namespace Relation

/-! ### Relations without epsilon transitions -/

/-- Without epsilon transitions every set is closed. -/
theorem epsilonClosure_eq_self_of_none {r : Relation Q S}
    (none : ∀ p q, ¬ q ∈ r.epsilonSuccessors p) (states : StateSet Q) :
    r.epsilonClosure states = states :=
  epsilonClosure_eq_self_iff.mpr fun p _ q hq => absurd hq (none p q)

variable {ts : List (Transition Q S)}

/-- Where no symbol marks epsilon transitions, adding transitions makes none. -/
theorem not_mem_epsilonSuccessors_withoutEpsilon (p q : Q) :
    ¬ q ∈ (withoutEpsilon.addMany ts).epsilonSuccessors p := by
  rw [withoutEpsilon, mem_epsilonSuccessors_addMany]
  simp

theorem mem_nextStates_withoutEpsilon {q p : Q} {a : S} :
    p ∈ (withoutEpsilon.addMany ts).nextStates q a ↔ ⟨q, a, p⟩ ∈ ts := by
  rw [withoutEpsilon, mem_nextStates_addMany]
  simp

theorem mem_edgesFrom_withoutEpsilon {q : Q} {a : S} :
    a ∈ (withoutEpsilon.addMany ts).edgesFrom q ↔ ∃ p, ⟨q, a, p⟩ ∈ ts := by
  have wf : (withoutEpsilon.addMany ts).WellFormed := wellFormed_addMany none ts
  simp only [wf.mem_edgesFrom_iff, mem_nextStates_withoutEpsilon]

/-! ### The second construction -/

variable {r : Relation Q S} {start : Q} {edges : List (Transition (StateSet Q) S)}

/-- The construction from the edges of an automaton makes each of its sets a singleton. -/
theorem corresponds_singleton
    (listed : ∀ source symbol target, ⟨source, symbol, target⟩ ∈ edges ↔
      ⟨source, symbol, target⟩ ∈ (r.determinize start).edges) :
    Corresponds r start (withoutEpsilon.addMany edges) (r.epsilonClosureOf start)
      SortedSet.singleton id where
  initial := epsilonClosure_eq_self_of_none not_mem_epsilonSuccessors_withoutEpsilon _
  readable states hdisc b := by
    simp only [mem_edgesFromSet, SortedSet.mem_singleton, exists_eq_left,
      mem_edgesFrom_withoutEpsilon, listed, mem_edges_determinize_iff, hdisc, true_and, id]
    constructor
    · rintro ⟨_, hread, -⟩
      exact ⟨b, hread, rfl⟩
    · rintro ⟨_, hread, rfl⟩
      exact ⟨_, hread, rfl⟩
  step states hdisc a hread := by
    rw [stepSet, epsilonClosure_eq_self_of_none not_mem_epsilonSuccessors_withoutEpsilon]
    ext target
    simp only [mem_nextStatesFromSet, SortedSet.mem_singleton, exists_eq_left,
      mem_nextStates_withoutEpsilon, listed, mem_edges_determinize_iff, hdisc, hread, true_and, id]

/-- **Determinizing again changes nothing but names.** Let a relation be made by adding the edges
of an automaton, in any order and any number of times. From the initial set, its construction finds
the same edges between singletons, as many as before, and a word leads to the singleton of the set
to which it led before. -/
theorem determinize_determinize (r : Relation Q S) (start : Q)
    (edges : List (Transition (StateSet Q) S))
    (listed : ∀ source symbol target, ⟨source, symbol, target⟩ ∈ edges ↔
      ⟨source, symbol, target⟩ ∈ (r.determinize start).edges) :
    let a := r.determinize start
    let a' := (withoutEpsilon.addMany edges).determinize a.initial
    a'.initial = .singleton a.initial ∧
    (∀ e', e' ∈ a'.edges ↔
      ∃ e ∈ a.edges, e' = ⟨.singleton e.source, e.symbol, .singleton e.target⟩) ∧
    a'.edges.size = a.edges.size ∧
    ∀ word, a'.run? word = (a.run? word).map .singleton ∧
      ∀ target, a'.run? word = some (.singleton target) ↔ a.run? word = some target := by
  intro a a'
  have h : Corresponds r start _ a.initial SortedSet.singleton id := corresponds_singleton listed
  have run : ∀ word, a'.run? word = (a.run? word).map .singleton := by
    intro word
    have mapped := h.run?_map Function.injective_id word
    rwa [List.map_id] at mapped
  refine ⟨h.initial, ?_, h.size_edges SortedSet.singleton_injective Function.injective_id, ?_⟩
  · intro e'
    rw [show a'.edges = a.edges.map _ from h.edges_eq, SortedSet.mem_map]
    simp only [Edge.image, id, eq_comm]
  · intro word
    refine ⟨run word, fun target => ?_⟩
    rw [run, ← Option.map_some]
    exact (Option.map_injective SortedSet.singleton_injective).eq_iff

end Relation

/-- Adding the three edges of the demo's automaton from the last to the first makes an automaton
with three edges, in which `b` leads from the singleton of the initial set to that of `{4}`. -/
theorem Relation.determinize_determinize_demo :
    let a := Demo.relation.determinize Demo.start
    let a' := (withoutEpsilon.addMany a.transitions.reverse).determinize a.initial
    a'.edges.size = 3 ∧ a'.run? ['b'] = some (.singleton (.ofList [4])) := by
  intro a a'
  have listed : ∀ source symbol target, ⟨source, symbol, target⟩ ∈ a.transitions.reverse ↔
      ⟨source, symbol, target⟩ ∈ a.edges := by
    intro source symbol target
    rw [List.mem_reverse, SetAutomaton.mem_transitions]
  obtain ⟨-, -, size, run⟩ :=
    Relation.determinize_determinize Demo.relation Demo.start a.transitions.reverse listed
  exact ⟨size.trans (by decide +kernel), ((run ['b']).2 _).mpr (by decide +kernel)⟩

end Determinize
