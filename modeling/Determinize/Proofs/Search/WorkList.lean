import Determinize.Search
import Mathlib.Logic.Relation

/-!
Searches that work off a list of pending nodes, in whatever order.

* `Turn` is one turn of such a search: it takes some pending node, drops it if it has been
  visited before, and otherwise visits it and makes its successors pending. A turn may leave out
  successors that have been visited, so searches that look before they push and searches that
  push everything are both described.
* `Reached` is what a search is meant to find: the starts and all that can be reached from them.
* `Consistent` is the invariant of a search, `Turn.consistent` the step lemma and
  `Consistent.of_turns` its form for a whole run.
* `Consistent.mem_visited_iff`: once nothing is pending, exactly what is reached has been visited.
* `Consistent.traced`: at any time, each visited node is a start or a successor of a node that was
  visited strictly before it.
-/

universe u

namespace Determinize.Search

/-- How far a search has come: the nodes that wait to be taken, and those that have been visited,
in the order of their visits. -/
structure Progress (α : Type u) where
  pending : List α
  visited : List α

section

variable {α : Type u} {successors : α → List α} {starts : List α}

/-- One turn of a search that may take any pending node. A node that has been visited is dropped;
any other node is visited, and those of its successors that have not been visited become
pending. -/
inductive Turn (successors : α → List α) : Progress α → Progress α → Prop where
  | skip {before after visited : List α} {node : α} : node ∈ visited →
      Turn successors ⟨before ++ node :: after, visited⟩ ⟨before ++ after, visited⟩
  | visit {before after visited pushed : List α} {node : α} : ¬ node ∈ visited →
      (∀ n ∈ pushed, n ∈ successors node) →
      (∀ n ∈ successors node, n ∈ pushed ∨ n ∈ visited ++ [node]) →
      Turn successors ⟨before ++ node :: after, visited⟩
        ⟨pushed ++ (before ++ after), visited ++ [node]⟩

/-- A node is a start or can be reached from one by going to successors. -/
inductive Reached (successors : α → List α) (starts : List α) : α → Prop where
  | start {n : α} : n ∈ starts → Reached successors starts n
  | step {m n : α} : Reached successors starts m → n ∈ successors m → Reached successors starts n

/-- Either `n` is a start or `earlier` has a node of which it is a successor. -/
def Traced (successors : α → List α) (starts earlier : List α) (n : α) : Prop :=
  n ∈ starts ∨ ∃ m ∈ earlier, n ∈ successors m

theorem Traced.mono {earlier earlier' : List α} {n : α} (sub : ∀ m ∈ earlier, m ∈ earlier')
    (h : Traced successors starts earlier n) : Traced successors starts earlier' n := by
  rcases h with hn | ⟨m, hm, hn⟩
  · exact .inl hn
  · exact .inr ⟨m, sub m hm, hn⟩

/-- The invariant of a search: nothing is visited twice, nothing is forgotten and nothing is made
up. -/
structure Consistent (successors : α → List α) (starts : List α) (p : Progress α) : Prop where
  /-- No node has been visited twice. -/
  nodup : p.visited.Nodup
  /-- Every start has been visited or is waiting. -/
  starts_kept : ∀ n ∈ starts, n ∈ p.visited ∨ n ∈ p.pending
  /-- Every successor of a visited node has been visited or is waiting. -/
  successors_kept : ∀ m ∈ p.visited, ∀ n ∈ successors m, n ∈ p.visited ∨ n ∈ p.pending
  /-- Every waiting node is a start or a successor of a visited node. -/
  pending_traced : ∀ n ∈ p.pending, Traced successors starts p.visited n
  /-- Every visited node is a start or a successor of a node that was visited before it. -/
  traced : ∀ (before : List α) (n : α) (after : List α), p.visited = before ++ n :: after →
    Traced successors starts before n

/-- A search begins with its starts pending, in any order. -/
theorem Consistent.initial {pending : List α} (h : ∀ n, n ∈ pending ↔ n ∈ starts) :
    Consistent successors starts ⟨pending, []⟩ where
  nodup := .nil
  starts_kept n hn := .inr ((h n).mpr hn)
  successors_kept m hm := absurd hm List.not_mem_nil
  pending_traced n hn := .inl ((h n).mp hn)
  traced before n after split := by simp at split

/-- A search that takes the last of its starts first. -/
def Progress.start (starts : List α) : Progress α := ⟨starts.reverse, []⟩

theorem Consistent.start : Consistent successors starts (.start starts) :=
  .initial fun _ => List.mem_reverse

/-! ### One turn -/

/-- Taking a node out of the middle of the pending ones loses no other node. -/
theorem mem_pending_cases {before after : List α} {node n : α}
    (h : n ∈ before ++ node :: after) : n = node ∨ n ∈ before ++ after := by
  rcases List.mem_append.mp h with hb | ha
  · exact .inr (List.mem_append_left _ hb)
  · rcases List.mem_cons.mp ha with rfl | ha
    · exact .inl rfl
    · exact .inr (List.mem_append_right _ ha)

theorem mem_pending_of_mem {before after : List α} {node n : α} (h : n ∈ before ++ after) :
    n ∈ before ++ node :: after := by
  rcases List.mem_append.mp h with hb | ha
  · exact List.mem_append_left _ hb
  · exact List.mem_append_right _ (List.mem_cons_of_mem _ ha)

/-- Dropping a node that has been visited forgets no node. -/
theorem kept_of_skip {before after visited : List α} {node n : α} (seen : node ∈ visited)
    (h : n ∈ visited ∨ n ∈ before ++ node :: after) : n ∈ visited ∨ n ∈ before ++ after := by
  rcases h with hv | hp
  · exact .inl hv
  · rcases mem_pending_cases hp with rfl | hp
    · exact .inl seen
    · exact .inr hp

/-- A visited node may be dropped. -/
theorem Consistent.skip {before after visited : List α} {node : α}
    (h : Consistent successors starts ⟨before ++ node :: after, visited⟩)
    (seen : node ∈ visited) : Consistent successors starts ⟨before ++ after, visited⟩ where
  nodup := h.nodup
  starts_kept n hn := kept_of_skip seen (h.starts_kept n hn)
  successors_kept m hm n hn := kept_of_skip seen (h.successors_kept m hm n hn)
  pending_traced n hn := h.pending_traced n (mem_pending_of_mem hn)
  traced := h.traced

/-- A split of `visited ++ [node]` at `n` either lies within `visited` or is the one before
`node`. -/
theorem split_snoc {visited before after : List α} {node n : α}
    (split : visited ++ [node] = before ++ n :: after) :
    (∃ after', visited = before ++ n :: after') ∨ (n = node ∧ before = visited) := by
  rcases List.eq_nil_or_concat after with rfl | ⟨init, last, rfl⟩
  · obtain ⟨rfl, hn⟩ := List.append_inj' split rfl
    exact .inr ⟨(List.cons.inj hn).1.symm, rfl⟩
  · refine .inl ⟨init, ?_⟩
    have split' : visited ++ [node] = (before ++ n :: init) ++ [last] := by
      rw [split]
      simp
    exact (List.append_inj' split' rfl).1

/-- Visiting a node forgets no node. -/
theorem kept_of_visit {before after visited pushed : List α} {node n : α}
    (h : n ∈ visited ∨ n ∈ before ++ node :: after) :
    n ∈ visited ++ [node] ∨ n ∈ pushed ++ (before ++ after) := by
  rcases h with hv | hp
  · exact .inl (List.mem_append_left _ hv)
  · rcases mem_pending_cases hp with rfl | hp
    · exact .inl (List.mem_append_right _ List.mem_cons_self)
    · exact .inr (List.mem_append_right _ hp)

/-- A node that has not been visited may be visited. -/
theorem Consistent.visit {before after visited pushed : List α} {node : α}
    (h : Consistent successors starts ⟨before ++ node :: after, visited⟩)
    (fresh : ¬ node ∈ visited) (sound : ∀ n ∈ pushed, n ∈ successors node)
    (complete : ∀ n ∈ successors node, n ∈ pushed ∨ n ∈ visited ++ [node]) :
    Consistent successors starts ⟨pushed ++ (before ++ after), visited ++ [node]⟩ := by
  have here : node ∈ visited ++ [node] := List.mem_append_right _ List.mem_cons_self
  have earlier : ∀ m ∈ visited, m ∈ visited ++ [node] := fun m hm => List.mem_append_left _ hm
  have origin : Traced successors starts visited node :=
    h.pending_traced node (List.mem_append_right _ List.mem_cons_self)
  constructor
  · refine List.nodup_append.mpr ⟨h.nodup, List.pairwise_singleton _ _, ?_⟩
    intro m hm n hn same
    rw [List.mem_singleton.mp hn] at same
    exact fresh (same ▸ hm)
  · intro n hn
    exact kept_of_visit (h.starts_kept n hn)
  · intro m hm n hn
    rcases List.mem_append.mp hm with hm | hm
    · exact kept_of_visit (h.successors_kept m hm n hn)
    · rw [List.mem_singleton.mp hm] at hn
      rcases complete n hn with hp | hv
      · exact .inr (List.mem_append_left _ hp)
      · exact .inl hv
  · intro n hn
    rcases List.mem_append.mp hn with hp | hp
    · exact .inr ⟨node, here, sound n hp⟩
    · exact (h.pending_traced n (mem_pending_of_mem hp)).mono earlier
  · intro before' n after' split
    rcases split_snoc split with ⟨rest, within⟩ | ⟨rfl, rfl⟩
    · exact h.traced before' n rest within
    · exact origin

theorem Turn.consistent {p p' : Progress α} (turn : Turn successors p p')
    (h : Consistent successors starts p) : Consistent successors starts p' := by
  cases turn with
  | skip seen => exact h.skip seen
  | visit fresh sound complete => exact h.visit fresh sound complete

/-! ### Whole runs -/

theorem Consistent.of_turns {p p' : Progress α} (h : Consistent successors starts p)
    (turns : Relation.ReflTransGen (Turn successors) p p') :
    Consistent successors starts p' := by
  induction turns with
  | refl => exact h
  | tail _ turn ih => exact turn.consistent ih

/-- A search visits nothing that cannot be reached. -/
theorem Consistent.reached {p : Progress α} (h : Consistent successors starts p) {n : α}
    (hn : n ∈ p.visited) : Reached successors starts n := by
  -- by induction on the number of nodes that were visited before `n`
  obtain ⟨before, after, split⟩ := List.append_of_mem hn
  induction hlen : before.length using Nat.strongRecOn generalizing n before after with
  | _ len ih =>
    rcases h.traced before n after split with hs | ⟨m, hm, hmn⟩
    · exact .start hs
    · obtain ⟨first, second, rfl⟩ := List.append_of_mem hm
      have split' : p.visited = first ++ m :: (second ++ n :: after) := by
        rw [split]
        simp
      have shorter : first.length < len := by
        rw [← hlen, List.length_append, List.length_cons]
        omega
      have hm' : m ∈ p.visited := split' ▸ List.mem_append_right _ List.mem_cons_self
      exact .step (ih first.length shorter hm' first _ split' rfl) hmn

theorem Consistent.reached_pending {p : Progress α} (h : Consistent successors starts p) {n : α}
    (hn : n ∈ p.pending) : Reached successors starts n := by
  rcases h.pending_traced n hn with hs | ⟨m, hm, hmn⟩
  · exact .start hs
  · exact .step (h.reached hm) hmn

/-- A search that has ended has visited exactly what can be reached. -/
theorem Consistent.mem_visited_iff {visited : List α}
    (h : Consistent successors starts ⟨[], visited⟩) {n : α} :
    n ∈ visited ↔ Reached successors starts n := by
  constructor
  · exact h.reached
  · intro hn
    induction hn with
    | start hs => exact (h.starts_kept _ hs).resolve_right List.not_mem_nil
    | step _ hstep ih => exact (h.successors_kept _ ih _ hstep).resolve_right List.not_mem_nil

/-! ### Finite searches -/

/-- A list of nodes that holds the starts and every successor of its members. -/
structure Encloses (successors : α → List α) (starts nodes : List α) : Prop where
  starts_mem : ∀ n ∈ starts, n ∈ nodes
  successors_mem : ∀ m ∈ nodes, ∀ n ∈ successors m, n ∈ nodes

theorem Encloses.mem_of_reached {nodes : List α} (h : Encloses successors starts nodes) {n : α}
    (hn : Reached successors starts n) : n ∈ nodes := by
  induction hn with
  | start hs => exact h.starts_mem _ hs
  | step _ hstep ih => exact h.successors_mem _ ih _ hstep

end

end Determinize.Search
