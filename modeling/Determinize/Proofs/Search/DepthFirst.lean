import Determinize.Proofs.Search.WorkList
import Mathlib.Data.List.Perm.Subperm
import Mathlib.Data.List.Nodup

/-!
Depth-first search is the loop that takes the uppermost pending node and puts those of its
successors on top that have not been visited.

* `turn?` is one turn of the loop, which has no turn left once nothing is pending; it is one of
  the turns that a search in any order may take (`turn_of_turn?`).
* `Ends` says that the loop comes to its end, and with which nodes visited.
* `ends_depthFirst`: given a finite list of nodes that contains the starts and is closed under
  successors, and a limit that is not below its length, the loop ends after visiting
  `depthFirst`. So the limit is never felt.
* `consistent_depthFirst`: then `depthFirst` has the invariant of a search that has ended. So it
  lists exactly what can be reached (`mem_depthFirst_iff`).
* `run_end_of_run`: a loop that keeps other data but follows the turns of the search ends where the
  search does. `run_of_stuck` is what this takes from the turns being determined.
-/

universe u v

namespace Determinize.Search

variable {α : Type u} [TotalOrd α] {successors : α → List α} {starts : List α}

/-! ### The loop -/

/-- One turn of the depth-first loop, unless nothing is pending. -/
def turn? (successors : α → List α) (p : Progress α) : Option (Progress α) :=
  match p.pending with
  | [] => none
  | node :: rest =>
    if node ∈ p.visited then some ⟨rest, p.visited⟩
    else
      let visited := p.visited ++ [node]
      some ⟨((successors node).filter fun n => ¬ n ∈ visited).reverse ++ rest, visited⟩

/-- The loop gets from one state to another by some number of turns. -/
abbrev Run (successors : α → List α) : Progress α → Progress α → Prop :=
  Relation.ReflTransGen fun p p' => turn? successors p = some p'

/-- The loop ends, and it has then visited `visited`. -/
def Ends (successors : α → List α) (p : Progress α) (visited : List α) : Prop :=
  Run successors p ⟨[], visited⟩

theorem turn?_of_mem {node : α} {rest visited : List α} (seen : node ∈ visited) :
    turn? successors ⟨node :: rest, visited⟩ = some ⟨rest, visited⟩ :=
  if_pos seen

theorem turn?_of_not_mem {node : α} {rest visited : List α} (fresh : ¬ node ∈ visited) :
    turn? successors ⟨node :: rest, visited⟩ =
      some ⟨((successors node).filter fun n => ¬ n ∈ visited ++ [node]).reverse ++ rest,
        visited ++ [node]⟩ :=
  if_neg fresh

/-- The loop takes one of the turns that are open to a search in any order. -/
theorem turn_of_turn? {p p' : Progress α} (h : turn? successors p = some p') :
    Turn successors p p' := by
  obtain ⟨pending, visited⟩ := p
  cases pending with
  | nil => cases h
  | cons node rest =>
    by_cases hnode : node ∈ visited
    · rw [turn?_of_mem hnode] at h
      cases h
      exact show Turn successors ⟨[] ++ node :: rest, visited⟩ ⟨[] ++ rest, visited⟩ from
        .skip hnode
    · rw [turn?_of_not_mem hnode] at h
      cases h
      refine show Turn successors ⟨[] ++ node :: rest, visited⟩
        ⟨_ ++ ([] ++ rest), visited ++ [node]⟩ from .visit hnode ?_ ?_
      · intro n hn
        exact (List.mem_filter.mp (List.mem_reverse.mp hn)).1
      · intro n hn
        by_cases hv : n ∈ visited ++ [node]
        · exact .inr hv
        · exact .inl (List.mem_reverse.mpr (List.mem_filter.mpr ⟨hn, by simpa using hv⟩))

theorem Run.turns {p p' : Progress α} (run : Run successors p p') :
    Relation.ReflTransGen (Turn successors) p p' :=
  Relation.ReflTransGen.mono (fun _ _ => turn_of_turn?) p p' run

/-- A loop that has only visited nodes to take drops them all. -/
theorem ends_of_pending_visited {pending visited : List α} (h : ∀ n ∈ pending, n ∈ visited) :
    Ends successors ⟨pending, visited⟩ visited := by
  induction pending with
  | nil => exact .refl
  | cons node rest ih =>
    have seen : node ∈ visited := h node List.mem_cons_self
    have later : Ends successors ⟨rest, visited⟩ visited := by
      apply ih
      intro n hn
      exact h n (List.mem_cons_of_mem _ hn)
    exact .head (turn?_of_mem seen) later

/-! ### The search is a run of the loop -/

/-- Dropping the nodes that have been visited takes the loop to the first fresh one. -/
theorem run_dropWhile {pending visited : List α} {seen : Std.TreeSet α}
    (hseen : ∀ n, n ∈ seen ↔ n ∈ visited) :
    Run successors ⟨pending, visited⟩ ⟨pending.dropWhile seen.contains, visited⟩ := by
  induction pending with
  | nil => exact .refl
  | cons node rest ih =>
    by_cases h : node ∈ seen
    · rw [List.dropWhile_cons_of_pos (Std.TreeSet.mem_iff_contains.mp h)]
      exact .head (turn?_of_mem ((hseen node).mp h)) ih
    · have fresh : ¬ seen.contains node = true := mt Std.TreeSet.mem_iff_contains.mpr h
      rw [List.dropWhile_cons_of_neg fresh]

/-- Two ways to keep the nodes that have not been visited. -/
theorem filter_fresh {visited nodes : List α} {seen : Std.TreeSet α}
    (hseen : ∀ n, n ∈ seen ↔ n ∈ visited) :
    (nodes.filter fun n => ¬ n ∈ visited) = nodes.filter fun n => !seen.contains n := by
  apply List.filter_congr
  intro n _
  rw [Bool.eq_iff_iff, decide_eq_true_iff, ← hseen, Std.TreeSet.mem_iff_contains]
  simp only [Bool.not_eq_true, Bool.not_eq_eq_eq_not, Bool.not_true]

/-- `visit` lists the nodes that a run of the loop visits. The run comes to its end unless it is
cut short by the limit. -/
theorem exists_run_visit (successors : α → List α) (limit : Nat) (pending visited : List α)
    (seen : Std.TreeSet α) (hseen : ∀ n, n ∈ seen ↔ n ∈ visited) :
    ∃ left, Run successors ⟨pending, visited⟩
        ⟨left, visited ++ visit successors limit pending seen⟩ ∧
      (left = [] ∨ (visit successors limit pending seen).length = limit) := by
  induction limit generalizing pending visited seen with
  | zero => exact ⟨pending, by simpa [visit] using .refl, .inr rfl⟩
  | succ limit ih =>
    have skipped : Run successors ⟨pending, visited⟩ _ := run_dropWhile hseen
    rw [visit]
    cases hdrop : pending.dropWhile seen.contains with
    | nil =>
      rw [hdrop] at skipped
      exact ⟨[], by simpa using skipped, .inl rfl⟩
    | cons node rest =>
      rw [hdrop] at skipped
      have fresh : ¬ node ∈ visited := mt (hseen node).mpr (not_mem_of_dropWhile hdrop)
      have hseen' : ∀ n, n ∈ seen.insert node ↔ n ∈ visited ++ [node] := by
        intro n
        rw [Std.TreeSet.mem_insert, compare_eq_iff, hseen, List.mem_append, List.mem_singleton,
          or_comm, eq_comm]
      have visiting : turn? successors ⟨node :: rest, visited⟩ = _ := turn?_of_not_mem fresh
      rw [filter_fresh hseen'] at visiting
      obtain ⟨left, run, done⟩ := ih _ _ _ hseen'
      refine ⟨left, ?_, ?_⟩
      · have run' := (skipped.tail visiting).trans run
        simpa using run'
      · rcases done with hnil | hlen
        · exact .inl hnil
        · exact .inr (congrArg (· + 1) hlen)

/-! ### The limit is never felt -/

/-- With a limit that is not below the number of nodes there are, the loop comes to its end. -/
theorem ends_depthFirst {nodes : List α} {limit : Nat} (h : Encloses successors starts nodes)
    (hlimit : nodes.length ≤ limit) :
    Ends successors (Progress.start starts) (depthFirst successors limit starts) := by
  obtain ⟨left, run, done⟩ := exists_run_visit successors limit starts.reverse [] ∅ (by simp)
  rw [List.nil_append] at run
  rcases done with rfl | full
  · exact run
  · have state := Consistent.start.of_turns (Run.turns run)
    have distinct : (depthFirst successors limit starts).Nodup := state.nodup
    have sub : depthFirst successors limit starts ⊆ nodes := by
      intro n hn
      exact h.mem_of_reached (state.reached hn)
    -- as many nodes have been visited as there are, hence all of them
    have enough : nodes.length ≤ (depthFirst successors limit starts).length :=
      Nat.le_trans hlimit (Nat.le_of_eq full.symm)
    have everything : (depthFirst successors limit starts).Perm nodes :=
      (distinct.subperm sub).perm_of_length_le enough
    have dropped : ∀ n ∈ left, n ∈ depthFirst successors limit starts := by
      intro n hn
      exact everything.mem_iff.mpr (h.mem_of_reached (state.reached_pending hn))
    exact run.trans (ends_of_pending_visited dropped)

/-- A loop whose turns are determined goes on from whatever it has come to until it is stuck. -/
theorem run_of_stuck {σ : Type v} {step : σ → Option σ} {first last s : σ}
    (whole : Relation.ReflTransGen (fun s s' => step s = some s') first last)
    (stuck : step last = none)
    (run : Relation.ReflTransGen (fun s s' => step s = some s') first s) :
    Relation.ReflTransGen (fun s s' => step s = some s') s last := by
  have deterministic : Relator.RightUnique fun s s' : σ => step s = some s' := by
    intro s s₁ s₂ h₁ h₂
    rw [h₁] at h₂
    exact Option.some_inj.mp h₂
  rcases Relation.ReflTransGen.total_of_right_unique deterministic run whole with later | earlier
  · exact later
  · rcases Relation.ReflTransGen.cases_head earlier with same | ⟨next, turn, -⟩
    · rw [same]
    · rw [stuck] at turn
      cases turn

/-- A loop on other data follows the search: each turn of the search is a turn of the loop on what
`view` makes of it, and the loop has no turn left where the search has ended. Then whatever the loop
has come to, it goes on to what is made of the end of the search. -/
theorem run_end_of_run {σ : Type v} {step : σ → Option σ} {view : Progress α → σ}
    (follows : ∀ p p', turn? successors p = some p' → step (view p) = some (view p'))
    (stuck : ∀ visited, step (view ⟨[], visited⟩) = none) {p : Progress α} {visited : List α}
    (ends : Ends successors p visited) {s : σ}
    (run : Relation.ReflTransGen (fun s s' => step s = some s') (view p) s) :
    Relation.ReflTransGen (fun s s' => step s = some s') s (view ⟨[], visited⟩) :=
  run_of_stuck (Relation.ReflTransGen.lift view follows _ _ ends) (stuck visited) run

theorem consistent_depthFirst {nodes : List α} {limit : Nat} (h : Encloses successors starts nodes)
    (hlimit : nodes.length ≤ limit) :
    Consistent successors starts ⟨[], depthFirst successors limit starts⟩ :=
  Consistent.start.of_turns (Run.turns (ends_depthFirst h hlimit))

/-- Depth-first search visits exactly what can be reached. -/
theorem mem_depthFirst_iff {nodes : List α} {limit : Nat} (h : Encloses successors starts nodes)
    (hlimit : nodes.length ≤ limit) {n : α} :
    n ∈ depthFirst successors limit starts ↔ Reached successors starts n :=
  (consistent_depthFirst h hlimit).mem_visited_iff

end Determinize.Search
