import Determinize.TotalOrd
import Std.Data.TreeSet.Lemmas

/-!
Depth-first search with an explicit stack. A node may wait on the stack several times; only the
first time it is taken is it visited, and then those of its successors that have not been visited
are put on top, the last one uppermost.

The number of visits is limited, so the search is total for every successor function. A limit
that is not below the number of nodes that can be reached is never felt, because no node is
visited twice.
-/

universe u

namespace Determinize.Search

variable {α : Type u} [TotalOrd α]

/-- The nodes visited from the stack `pending`, whose top is its head, in the order of their
visits. Nodes in `seen` have been visited before, and at most `limit` nodes are visited now. -/
def visit (successors : α → List α) : Nat → List α → Std.TreeSet α → List α
  | 0, _, _ => []
  | limit + 1, pending, seen =>
    match pending.dropWhile seen.contains with
    | [] => []
    | node :: rest =>
      let seen := seen.insert node
      let unseen := (successors node).filter fun next => !seen.contains next
      node :: visit successors limit (unseen.reverse ++ rest) seen

/-- The nodes that a search from `starts` visits, the last of `starts` being taken first. -/
def depthFirst (successors : α → List α) (limit : Nat) (starts : List α) : List α :=
  visit successors limit starts.reverse ∅

/-- The node that is taken has not been visited before. -/
theorem not_mem_of_dropWhile {pending rest : List α} {node : α} {seen : Std.TreeSet α}
    (h : pending.dropWhile seen.contains = node :: rest) : ¬ node ∈ seen := by
  have head := List.head?_dropWhile_not seen.contains pending
  rw [h] at head
  intro hs
  simp [Std.TreeSet.mem_iff_contains.mp hs] at head

end Determinize.Search
