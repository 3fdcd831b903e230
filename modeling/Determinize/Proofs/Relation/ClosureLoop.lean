import Determinize.Proofs.Relation.Closure

/-!
The loop that closes a set of states under epsilon transitions, turn by turn.

* `Closing` is what the loop keeps and `Closing.turn?` is one turn of it: it takes a state, drops it
  if it has been visited, and otherwise visits it and lets its unvisited epsilon successors wait. A
  state may wait several times, so what waits can grow from turn to turn.
* `turn?_ofProgress`: a turn of the depth-first search for states is a turn of the loop. So the loop
  ends where the search does, with the closure as what has been visited (`run_final_of_run`).
* `epsilonClosure_subset`: a closure lies within every closed set around what is closed.
* `epsilonClosure_congr`, `epsilonClosure_addMany`: a closure depends on the epsilon transitions
  alone.
* `epsilonClosure_exact` collects what a closure is. It holds of every relation and of every set,
  whether or not the relation knows its members.
-/

namespace Determinize

variable {Q S : Type} [TotalOrd Q] [TotalOrd S] {r : Relation Q S}

/-! ### The loop -/

/-- What the loop keeps: the states that wait, the next one first, and those that have been
visited, which are the part of the closure that has been found. -/
structure Closing (Q : Type) [TotalOrd Q] where
  pending : List Q
  visited : StateSet Q

namespace Closing

/-- One turn of the loop, unless no state waits. -/
def turn? (r : Relation Q S) (c : Closing Q) : Option (Closing Q) :=
  match c.pending with
  | [] => none
  | state :: rest =>
    if state ∈ c.visited then some { c with pending := rest }
    else
      let visited := c.visited.insert state
      let fresh := (r.epsilonSuccessors state).toList.filter fun next => ¬ next ∈ visited
      some ⟨fresh.reverse ++ rest, visited⟩

/-- At first the given states wait, the largest one being next. -/
def initial (states : StateSet Q) : Closing Q := ⟨states.toList.reverse, ∅⟩

/-- The loop gets from one state to another by some number of turns. -/
abbrev Run (r : Relation Q S) : Closing Q → Closing Q → Prop :=
  Relation.ReflTransGen fun c c' => c.turn? r = some c'

theorem turn?_of_mem {state : Q} {rest : List Q} {visited : StateSet Q}
    (known : state ∈ visited) :
    turn? r ⟨state :: rest, visited⟩ = some ⟨rest, visited⟩ :=
  if_pos known

theorem turn?_of_not_mem {state : Q} {rest : List Q} {visited : StateSet Q}
    (fresh : ¬ state ∈ visited) :
    turn? r ⟨state :: rest, visited⟩ =
      some ⟨
        ((r.epsilonStep state).filter fun next => ¬ next ∈ visited.insert state).reverse ++ rest,
        visited.insert state⟩ :=
  if_neg fresh

/-! ### The search for states as a run of the loop -/

/-- What the loop keeps once the search for states has come to `p`. -/
def ofProgress (p : Search.Progress Q) : Closing Q := ⟨p.pending, .ofList p.visited⟩

/-- A turn of the search is a turn of the loop. -/
theorem turn?_ofProgress {p p' : Search.Progress Q}
    (turn : Search.turn? r.epsilonStep p = some p') :
    (ofProgress p).turn? r = some (ofProgress p') := by
  obtain ⟨pending, visited⟩ := p
  cases pending with
  | nil => cases turn
  | cons state rest =>
    by_cases known : state ∈ visited
    · rw [Search.turn?_of_mem known] at turn
      cases turn
      exact turn?_of_mem (SortedSet.mem_ofList.mpr known)
    · rw [Search.turn?_of_not_mem known] at turn
      cases turn
      have fresh : ¬ state ∈ SortedSet.ofList visited := mt SortedSet.mem_ofList.mp known
      rw [ofProgress, turn?_of_not_mem fresh, ← SortedSet.ofList_concat]
      simp only [SortedSet.mem_ofList, ofProgress]

/-- What the loop keeps at its end. -/
def final (r : Relation Q S) (states : StateSet Q) : Closing Q := ⟨[], r.epsilonClosure states⟩

/-- Whatever the loop has come to, it goes on to its end. -/
theorem run_final_of_run {states : StateSet Q} {c : Closing Q} (run : Run r (initial states) c) :
    Run r c (final r states) := by
  have ends := Search.ends_depthFirst (Relation.encloses_epsilonStep r states)
    (Nat.le_of_eq (Relation.length_encloses_epsilonStep r states))
  exact Search.run_end_of_run (fun _ _ => turn?_ofProgress) (fun _ => rfl) ends run

end Closing

/-- Relations with the same epsilon transitions reach the same by them. -/
theorem EpsilonReachable.congr {r' : Relation Q S}
    (same : ∀ q, r.epsilonSuccessors q = r'.epsilonSuccessors q) {p q : Q}
    (h : EpsilonReachable r p q) : EpsilonReachable r' p q := by
  induction h with
  | refl => exact .refl
  | step _ hstep ih =>
    rw [same] at hstep
    exact .step ih hstep

namespace Relation

variable {states : StateSet Q}

/-! ### The least closed set -/

/-- A closure lies within every closed set around the given states. -/
theorem epsilonClosure_subset {within : Set Q} (around : ∀ q ∈ states, q ∈ within)
    (closed : ∀ p ∈ within, ∀ q ∈ r.epsilonSuccessors p, q ∈ within) :
    ∀ q ∈ r.epsilonClosure states, q ∈ within := by
  intro q hq
  obtain ⟨p, hp, reach⟩ := mem_epsilonClosure_iff.mp hq
  induction reach with
  | refl => exact around _ hp
  | step reach hstep ih => exact closed _ (ih (mem_epsilonClosure_iff.mpr ⟨p, hp, reach⟩)) _ hstep

/-! ### Epsilon transitions alone count -/

/-- Relations with the same epsilon transitions have the same closures. -/
theorem epsilonClosure_congr {r' : Relation Q S}
    (same : ∀ q, r.epsilonSuccessors q = r'.epsilonSuccessors q) (states : StateSet Q) :
    r.epsilonClosure states = r'.epsilonClosure states := by
  ext q
  rw [mem_epsilonClosure_iff, mem_epsilonClosure_iff]
  constructor
  · rintro ⟨p, hp, h⟩
    exact ⟨p, hp, h.congr same⟩
  · rintro ⟨p, hp, h⟩
    exact ⟨p, hp, h.congr fun q => (same q).symm⟩

/-- Regular transitions file nothing under the epsilon transitions. -/
theorem epsilon_addMany {ts : List (Transition Q S)}
    (regular : ∀ t ∈ ts, r.epsilonSymbol ≠ some t.symbol) : (r.addMany ts).epsilon = r.epsilon := by
  induction ts generalizing r with
  | nil => rfl
  | cons t ts ih =>
    obtain ⟨ht, hts⟩ := List.forall_mem_cons.mp regular
    have added : r.add t = r.addRegular t := if_neg (mt isEpsilon_iff.mp ht)
    calc (r.addMany (t :: ts)).epsilon
        = ((r.addRegular t).addMany ts).epsilon := by rw [← added]; rfl
      _ = (r.addRegular t).epsilon := ih hts
      _ = r.epsilon := rfl

theorem epsilonClosure_addMany {ts : List (Transition Q S)}
    (regular : ∀ t ∈ ts, r.epsilonSymbol ≠ some t.symbol) (states : StateSet Q) :
    (r.addMany ts).epsilonClosure states = r.epsilonClosure states := by
  apply epsilonClosure_congr
  intro q
  rw [epsilonSuccessors, epsilonSuccessors, epsilon_addMany regular]

/-! ### Closures -/

/-- **An epsilon closure is what can be reached.** The loop that computes it ends, whatever cycles
the epsilon transitions form. It has then visited exactly the states that epsilon transitions reach
from the given ones. These are the least closed set around the given states, and regular transitions
have no part in it. -/
theorem epsilonClosure_exact (r : Relation Q S) (states : StateSet Q) :
    (∃ last : Closing Q,
      (∀ c, Closing.Run r (.initial states) c → Closing.Run r c last) ∧ last.turn? r = none ∧
      last.visited = r.epsilonClosure states) ∧
    (∀ q, q ∈ r.epsilonClosure states ↔ ∃ p ∈ states, EpsilonReachable r p q) ∧
    (∀ q ∈ states, q ∈ r.epsilonClosure states) ∧
    (∀ p ∈ r.epsilonClosure states, ∀ q ∈ r.epsilonSuccessors p, q ∈ r.epsilonClosure states) ∧
    (∀ within : Set Q, (∀ q ∈ states, q ∈ within) →
      (∀ p ∈ within, ∀ q ∈ r.epsilonSuccessors p, q ∈ within) →
      ∀ q ∈ r.epsilonClosure states, q ∈ within) ∧
    (∀ r' : Relation Q S, (∀ q, r.epsilonSuccessors q = r'.epsilonSuccessors q) →
      r.epsilonClosure states = r'.epsilonClosure states) ∧
    ∀ ts : List (Transition Q S), (∀ t ∈ ts, r.epsilonSymbol ≠ some t.symbol) →
      (r.addMany ts).epsilonClosure states = r.epsilonClosure states := by
  refine ⟨⟨.final r states, ?_, rfl, rfl⟩, ?_, ?_, ?_, ?_, ?_, ?_⟩
  · intro c run
    exact Closing.run_final_of_run run
  · intro q
    exact mem_epsilonClosure_iff
  · intro q hq
    exact subset_epsilonClosure hq
  · exact epsilonClosure_eq_self_iff.mp epsilonClosure_idem
  · intro within around closed
    exact epsilonClosure_subset around closed
  · intro r' same
    exact epsilonClosure_congr same states
  · intro ts regular
    exact epsilonClosure_addMany regular states

end Relation

/-- Epsilon transitions with a loop at 1 and a cycle through 1 and 2, and a regular one from 3. -/
def Demo.cyclic : Relation Nat Char :=
  Demo.empty.addMany [⟨1, ' ', 1⟩, ⟨1, ' ', 2⟩, ⟨2, ' ', 1⟩, ⟨2, ' ', 3⟩, ⟨3, 'a', 4⟩]

/-- From 1 the loop visits the cycle and 3; it also visits 9, which the relation does not know. A
regular transition from 9 makes no difference. -/
theorem Relation.epsilonClosure_exact_demo :
    let states : StateSet Nat := .ofList [1, 9]
    (∃ last : Closing Nat,
      (∀ c, Closing.Run Demo.cyclic (.initial states) c → Closing.Run Demo.cyclic c last) ∧
      last.visited = .ofList [1, 2, 3, 9]) ∧
    (∃ p ∈ states, EpsilonReachable Demo.cyclic p 3) ∧
    (Demo.cyclic.addMany [⟨9, 'a', 4⟩]).epsilonClosure states = .ofList [1, 2, 3, 9] := by
  intro states
  have closure : Demo.cyclic.epsilonClosure states = .ofList [1, 2, 3, 9] := by decide +kernel
  obtain ⟨⟨last, ends, -, visited⟩, reached, -, -, -, -, regular⟩ :=
    Relation.epsilonClosure_exact Demo.cyclic states
  refine ⟨⟨last, ends, visited.trans closure⟩, ?_, ?_⟩
  · apply (reached 3).mp
    rw [closure]
    decide
  · rw [regular [⟨9, 'a', 4⟩] (by decide), closure]

end Determinize
