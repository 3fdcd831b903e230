import Determinize.Relation.Basic
import Determinize.Text.Display

/-!
Edges between sets of states, ordered by source, then by symbol and finally by target.
-/

namespace Determinize

/-- A step from the set `source` to the set `target` that reads `symbol`. -/
structure Edge (Q S : Type) [TotalOrd Q] where
  source : StateSet Q
  symbol : S
  target : StateSet Q

namespace Edge

section

variable {Q S : Type} [TotalOrd Q]

/-- What edges are compared by. -/
def triple (e : Edge Q S) : StateSet Q × S × StateSet Q := (e.source, e.symbol, e.target)

theorem triple_inj {e f : Edge Q S} (h : e.triple = f.triple) : e = f := by
  cases e; cases f; cases h; rfl

variable [TotalOrd S]

instance : Ord (Edge Q S) := ⟨fun e f => compare e.triple f.triple⟩

theorem compare_def (e f : Edge Q S) : compare e f = compare e.triple f.triple := rfl

instance : Std.LawfulEqOrd (Edge Q S) :=
  lawfulEqOrd_of_injective (fun _ _ => triple_inj) compare_def

instance : Std.TransOrd (Edge Q S) := transOrd_of_compare compare_def

end

section

variable {Q S : Type} [TotalOrd Q]

instance [Display Q] [Display S] : Display (Edge Q S) where
  display e := display e.source ++ ", " ++ display e.symbol ++ ", " ++ display e.target

instance [Display Q] [Display S] : PlainDisplay (Edge Q S) := ⟨fun _ => rfl⟩

instance [Inspect Q] [Inspect S] : Inspect (Edge Q S) where
  inspect e :=
    "PowersetEdge \x7b source: " ++ inspect e.source ++ ", symbol: " ++ inspect e.symbol ++
      ", target: " ++ inspect e.target ++ " \x7d"

end

end Edge

end Determinize
