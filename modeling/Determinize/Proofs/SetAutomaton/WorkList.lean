import Determinize.Log
import Determinize.Proofs.SetAutomaton.States

/-!
The loop of the subset construction, turn by turn.

* `Work` is what the loop keeps and `Work.turn?` is one turn of it: it takes a pair, drops it if
  it has been seen, and otherwise finds its edge and lets the unseen pairs of the target wait.
* `turn?_ofProgress`: a turn of the depth-first search for pairs is a turn of the loop. So the loop
  ends where the search does (`run_final_of_run`), with the edges of `determinize` and its
  discoveries as the edges in the order in which they were found.
* `source_of_discoveries`: each edge starts in the initial set or in the target of an edge that was
  found before it. This is how the invariant of the search reads on edges.
* `work_ends` collects what holds of every run of the loop.
-/

namespace Determinize

variable {Q S : Type} [TotalOrd Q] [TotalOrd S] {r : Relation Q S} {start : Q}

/-! ### The loop -/

/-- What the loop keeps: the pairs that wait, the next one first, those that have been seen, the
set of the edges, and the edges in the order in which they were found. -/
structure Work (Q S : Type) [TotalOrd Q] [TotalOrd S] where
  queue : List (StateSet Q × S)
  seen : SortedSet (StateSet Q × S)
  edges : SortedSet (Edge Q S)
  found : List (Edge Q S)

namespace Work

/-- One turn of the loop, unless no pair waits. -/
def turn? (r : Relation Q S) (w : Work Q S) : Option (Work Q S) :=
  match w.queue with
  | [] => none
  | pair :: rest =>
    if pair ∈ w.seen then some { w with queue := rest }
    else
      let seen := w.seen.insert pair
      let target := r.epsilonClosure (r.nextStatesFromSet pair.1 pair.2)
      let fresh := (r.pairsOf target).filter fun next => ¬ next ∈ seen
      let edge : Edge Q S := ⟨pair.1, pair.2, target⟩
      some ⟨fresh.reverse ++ rest, seen, w.edges.insert edge, w.found ++ [edge]⟩

/-- At first the pairs of the initial set wait, the one with the last symbol being next. -/
def initial (r : Relation Q S) (start : Q) : Work Q S :=
  ⟨(r.pairsOf (r.epsilonClosureOf start)).reverse, ∅, ∅, []⟩

/-- The loop gets from one state to another by some number of turns. -/
abbrev Run (r : Relation Q S) : Work Q S → Work Q S → Prop :=
  Relation.ReflTransGen fun w w' => w.turn? r = some w'

theorem turn?_of_mem {pair : StateSet Q × S} {rest : List (StateSet Q × S)} {w : Work Q S}
    (queued : w.queue = pair :: rest) (known : pair ∈ w.seen) :
    w.turn? r = some { w with queue := rest } := by
  unfold turn?
  rw [queued]
  exact if_pos known

theorem turn?_of_not_mem {pair : StateSet Q × S} {rest : List (StateSet Q × S)} {w : Work Q S}
    (queued : w.queue = pair :: rest) (fresh : ¬ pair ∈ w.seen) :
    w.turn? r = some
      ⟨((r.pairStep pair).filter fun next => ¬ next ∈ w.seen.insert pair).reverse ++ rest,
        w.seen.insert pair, w.edges.insert (r.edgeOf pair), w.found ++ [r.edgeOf pair]⟩ := by
  unfold turn?
  rw [queued]
  exact if_neg fresh

/-! ### The search for pairs as a run of the loop -/

/-- What the loop keeps once the search for pairs has come to `p`. -/
def ofProgress (r : Relation Q S) (p : Search.Progress (StateSet Q × S)) : Work Q S :=
  ⟨p.pending, .ofList p.visited, .ofList (p.visited.map r.edgeOf), p.visited.map r.edgeOf⟩

/-- A turn of the search is a turn of the loop. -/
theorem turn?_ofProgress {p p' : Search.Progress (StateSet Q × S)}
    (turn : Search.turn? r.pairStep p = some p') :
    (ofProgress r p).turn? r = some (ofProgress r p') := by
  obtain ⟨pending, visited⟩ := p
  cases pending with
  | nil => cases turn
  | cons pair rest =>
    by_cases known : pair ∈ visited
    · rw [Search.turn?_of_mem known] at turn
      cases turn
      exact turn?_of_mem rfl (SortedSet.mem_ofList.mpr known)
    · rw [Search.turn?_of_not_mem known] at turn
      cases turn
      rw [turn?_of_not_mem rfl (mt SortedSet.mem_ofList.mp known)]
      unfold ofProgress
      simp only [List.map_append, List.map_cons, List.map_nil, SortedSet.ofList_concat]
      congr 4
      apply List.filter_congr
      intro next _
      rw [decide_eq_decide, ← SortedSet.ofList_concat, SortedSet.mem_ofList]

/-- What the loop keeps at its end. -/
def final (r : Relation Q S) (start : Q) : Work Q S := ofProgress r ⟨[], r.explored start⟩

/-- Whatever the loop has come to, it goes on to its end. -/
theorem run_final_of_run {w : Work Q S} (run : Run r (initial r start) w) :
    Run r w (final r start) := by
  have ends := Search.ends_depthFirst (Relation.encloses_pairStep r start)
    (Relation.length_encloses_pairStep r start)
  exact Search.run_end_of_run (fun _ _ => turn?_ofProgress) (fun _ => rfl) ends run

end Work

namespace Relation

/-! ### The order of the discoveries -/

/-- Each edge starts in the initial set or in the target of an edge that was found before. -/
theorem source_of_discoveries {before after : List (Edge Q S)} {e : Edge Q S}
    (split : r.discoveries start = before ++ e :: after) :
    e.source = r.epsilonClosureOf start ∨ ∃ f ∈ before, f.target = e.source := by
  obtain ⟨pairs, later, hexplored, rfl, htail⟩ := List.map_eq_append_iff.mp split
  obtain ⟨pair, rest, rfl, rfl, -⟩ := List.map_eq_cons_iff.mp htail
  rcases (consistent_explored r start).traced pairs pair rest hexplored with hs | ⟨m, hm, hstep⟩
  · exact .inl (mem_pairsOf.mp hs).1
  · refine .inr ⟨r.edgeOf m, List.mem_map_of_mem hm, ?_⟩
    exact (mem_pairsOf.mp hstep).1.symm

theorem mem_discoveries_iff_mem_edges {e : Edge Q S} :
    e ∈ r.discoveries start ↔ e ∈ (r.determinize start).edges := by
  rw [determinize, SortedSet.mem_ofList]

/-- **The loop of the construction ends.** It ends with the edges of the automaton, each of them
found once, after an edge that leads to its source unless that is the initial set. The sets of
the automaton are closed and not empty, and there are no more sets and edges than the relation
has sets of states and pairs of such a set and a symbol. -/
theorem work_ends (h : r.Reachable) (start : Q) :
    ∃ last : Work Q S,
      (∀ w, Work.Run r (.initial r start) w → Work.Run r w last) ∧ last.turn? r = none ∧
      last.edges = (r.determinize start).edges ∧
      r.determinizeEvents start = last.found.map .found ++
        [.determinized start (r.determinize start).states.size
          (r.determinize start).edges.size] ∧
      (last.found.map fun e => (e.source, e.symbol)).Nodup ∧
      (∀ before e after, last.found = before ++ e :: after →
        e.source = (r.determinize start).initial ∨ ∃ f ∈ before, f.target = e.source) ∧
      (∀ e, e ∈ last.found ↔ e ∈ (r.determinize start).edges) ∧
      last.found.length = (r.determinize start).edges.size ∧
      (∀ states ∈ (r.determinize start).states,
        states ≠ ∅ ∧ r.epsilonClosure states = states) ∧
      (r.determinize start).states.size ≤ (r.determinize start).edges.size + 1 ∧
      (r.determinize start).states.size ≤ 2 ^ r.states.size ∧
      (r.determinize start).edges.size ≤ (2 ^ r.states.size - 1) * r.alphabet.size := by
  have wf := h.wellFormed
  have distinct : ((r.discoveries start).map fun e => (e.source, e.symbol)).Nodup := by
    rw [map_pair_discoveries]
    exact nodup_explored r start
  have closed : ∀ states ∈ (r.determinize start).states,
      states ≠ ∅ ∧ r.epsilonClosure states = states := by
    intro states hs
    have hdisc := mem_states_determinize_iff.mp hs
    exact ⟨hdisc.ne_empty wf, hdisc.closed⟩
  refine ⟨.final r start, ?_, rfl, rfl, rfl, distinct, ?_, ?_, ?_, closed, ?_, ?_, ?_⟩
  · intro w run
    exact Work.run_final_of_run run
  · intro before e after split
    exact source_of_discoveries split
  · intro e
    exact mem_discoveries_iff_mem_edges
  · exact (size_edges_determinize r start).symm
  · exact size_states_le_size_edges r start
  · exact wf.size_states_le start
  · exact wf.size_edges_le start

/-- In the demo the loop finds three edges. -/
theorem work_ends_demo :
    ∃ last : Work Nat Char,
      (∀ w, Work.Run Demo.relation (.initial Demo.relation Demo.start) w →
        Work.Run Demo.relation w last) ∧
      last.turn? Demo.relation = none ∧ last.found.length = 3 := by
  obtain ⟨last, ends, stuck, -, -, -, -, -, count, -⟩ :=
    work_ends Demo.reachable_relation Demo.start
  exact ⟨last, ends, stuck, count.trans (by decide +kernel)⟩

end Relation

end Determinize
