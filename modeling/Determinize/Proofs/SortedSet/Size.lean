import Determinize.SortedSet.Lemmas
import Mathlib.Algebra.GroupWithZero.Nat
import Mathlib.Data.List.Perm.Subperm
import Mathlib.Data.List.Sort
import Mathlib.Data.List.Sublists

/-!
How large sorted sets can be.

* `size_le_length`: a set whose members all stand in a list is no larger than the list, and
  `length_le_size` is the converse for lists without repetitions.
* `size_ofList_of_nodup`: a list without repetitions makes a set of its own length;
  `size_map_of_injective`: an injective image has as many members as the set.
* `subsets` lists the subsets of a set; there are `2 ^ size` of them (`length_subsets`), and
  `length_nonemptySubsets` leaves out the empty one.
-/

universe u v

namespace Determinize.SortedSet

variable {α : Type u} [TotalOrd α] {s t : SortedSet α} {l : List α}

/-! ### The empty set -/

theorem eq_empty_iff : s = ∅ ↔ ∀ a, ¬ a ∈ s := by
  constructor
  · rintro rfl a
    exact not_mem_empty a
  · intro h
    ext a
    exact iff_of_false (h a) (not_mem_empty a)

theorem ne_empty_iff : s ≠ ∅ ↔ ∃ a, a ∈ s := by
  rw [Ne, eq_empty_iff, not_forall_not]

theorem ne_empty_of_mem {a : α} (h : a ∈ s) : s ≠ ∅ := ne_empty_iff.mpr ⟨a, h⟩

/-! ### Bounds -/

/-- A set whose members all stand in a list is no larger than the list. -/
theorem size_le_length (h : ∀ a ∈ s, a ∈ l) : s.size ≤ l.length :=
  ((nodup_toList s).subperm h).length_le

/-- A set in which all of a list without repetitions is found is no smaller than the list. -/
theorem length_le_size (nodup : l.Nodup) (h : ∀ a ∈ l, a ∈ s) : l.length ≤ s.size :=
  (nodup.subperm h).length_le

/-- A list without repetitions makes a set of its own length. -/
theorem size_ofList_of_nodup (h : l.Nodup) : (ofList l).size = l.length := by
  apply Nat.le_antisymm
  · exact size_le_length fun a ha => mem_ofList.mp ha
  · exact length_le_size h fun a ha => mem_ofList.mpr ha

/-- An injective image has as many members as the set. -/
theorem size_map_of_injective {β : Type v} [TotalOrd β] {f : α → β} (hf : f.Injective)
    (s : SortedSet α) : (s.map f).size = s.size := by
  rw [map, size_ofList_of_nodup ((nodup_toList s).map hf), List.length_map, size]

/-! ### Subsets -/

/-- All subsets of a set. -/
def subsets (s : SortedSet α) : List (SortedSet α) := s.toList.sublists.map ofList

theorem length_subsets (s : SortedSet α) : s.subsets.length = 2 ^ s.size := by
  rw [subsets, List.length_map, List.length_sublists, size]

/-- The members of a subset, in order, are some of the members of the set, in order. -/
theorem sublist_of_subset (h : ∀ a ∈ t, a ∈ s) : t.toList.Sublist s.toList := by
  have part : t.toList.Subperm s.toList := (nodup_toList t).subperm h
  have : Std.Antisymm (Before : α → α → Prop) :=
    ⟨fun _ _ hab hba => absurd hba (Before.asymm hab)⟩
  exact List.sublist_of_subperm_of_pairwise part t.ascending s.ascending

theorem ofList_toList (s : SortedSet α) : ofList s.toList = s := by
  ext a
  exact mem_ofList

theorem mem_subsets (h : ∀ a ∈ t, a ∈ s) : t ∈ s.subsets :=
  List.mem_map.mpr ⟨t.toList, List.mem_sublists.mpr (sublist_of_subset h), ofList_toList t⟩

/-- All subsets of a set but the empty one. -/
def nonemptySubsets (s : SortedSet α) : List (SortedSet α) := s.subsets.erase ∅

theorem length_nonemptySubsets (s : SortedSet α) :
    s.nonemptySubsets.length = 2 ^ s.size - 1 := by
  have first : (∅ : SortedSet α) ∈ s.subsets :=
    mem_subsets fun a ha => absurd ha (not_mem_empty a)
  rw [nonemptySubsets, List.length_erase_of_mem first, length_subsets]

theorem mem_nonemptySubsets (h : ∀ a ∈ t, a ∈ s) (hne : t ≠ ∅) : t ∈ s.nonemptySubsets :=
  (List.mem_erase_of_ne hne).mpr (mem_subsets h)

end Determinize.SortedSet
