import Determinize.SortedSet.Basic

/-!
What the operations on sorted sets do to the members. `ext` turns every equation between sets
into a statement about members, and the `mem_` lemmas decide those.
-/

universe u v w

namespace Determinize.SortedSet

open Ascending

section

variable {α : Type u} [TotalOrd α] {a b : α} {s t : SortedSet α} {l : List α}

/-! ### Members of built sets -/

@[simp]
theorem not_mem_empty (a : α) : ¬ a ∈ (∅ : SortedSet α) := List.not_mem_nil

@[simp]
theorem mem_insert : a ∈ s.insert b ↔ a = b ∨ a ∈ s := mem_place

@[simp]
theorem mem_ofList : a ∈ ofList l ↔ a ∈ l := mem_arrange

@[simp]
theorem mem_singleton : a ∈ singleton b ↔ a = b := List.mem_singleton

theorem singleton_injective : (singleton : α → SortedSet α).Injective := by
  intro a b same
  exact mem_singleton.mp (same ▸ mem_singleton.mpr rfl)

@[simp]
theorem mem_union : a ∈ s ∪ t ↔ a ∈ s ∨ a ∈ t := mem_merge

@[simp]
theorem mem_insertMany : a ∈ s.insertMany l ↔ a ∈ s ∨ a ∈ l := by
  simp [insertMany]

@[simp]
theorem contains_iff : s.contains a = true ↔ a ∈ s := by
  simp [contains, mem_def]

instance decidableMem (a : α) (s : SortedSet α) : Decidable (a ∈ s) :=
  decidable_of_iff _ contains_iff

/-! ### One representation for each set -/

theorem nodup_toList (s : SortedSet α) : s.toList.Nodup :=
  s.ascending.imp Before.ne

/-- The members determine the set. -/
@[ext]
theorem ext (h : ∀ a, a ∈ s ↔ a ∈ t) : s = t :=
  toList_inj (eq_of_ascending s.ascending t.ascending h)

/-- Inserting a member again changes nothing. -/
theorem insert_of_mem (h : a ∈ s) : s.insert a = s := by
  ext x
  rw [mem_insert]
  exact ⟨fun hx => hx.elim (fun e => e ▸ h) id, .inr⟩

/-- Adding an element at the end of a list inserts it into its set. -/
theorem ofList_concat (l : List α) (a : α) : ofList (l ++ [a]) = (ofList l).insert a := by
  ext x
  rw [mem_ofList, mem_insert, mem_ofList, List.mem_append, List.mem_singleton, or_comm]

/-- If a list yields some of its elements, then one more element at its end inserts what it
yields. -/
theorem ofList_filterMap_concat {β : Type v} (f : β → Option α) (l : List β) (b : β) :
    ofList ((l ++ [b]).filterMap f) =
      (f b).elim (ofList (l.filterMap f)) (ofList (l.filterMap f)).insert := by
  rw [List.filterMap_append]
  cases h : f b with
  | none => simp [h]
  | some a => simp [h, ofList_concat]

/-- If every item of a list adds what it gives to a set, then the items together add what some item
gives. -/
theorem mem_foldl {σ : Type v} {step : SortedSet α → σ → SortedSet α} {gives : σ → α → Prop}
    (one : ∀ s x a, a ∈ step s x ↔ a ∈ s ∨ gives x a) {items : List σ} :
    a ∈ items.foldl step s ↔ a ∈ s ∨ ∃ x ∈ items, gives x a := by
  induction items generalizing s with
  | nil => simp
  | cons x items ih => simp [ih, one, or_assoc]

/-- The size grows by one exactly when the element is new. -/
theorem size_insert : (s.insert a).size = if a ∈ s then s.size else s.size + 1 := by
  split
  next h => rw [insert_of_mem h]
  next h => exact (perm_place h).length_eq

end

/-! ### Images -/

section

variable {α : Type u} {β : Type v} [TotalOrd α] [TotalOrd β] {s : SortedSet α} {b : β}

@[simp]
theorem mem_map {f : α → β} : b ∈ s.map f ↔ ∃ a ∈ s, f a = b := by
  rw [map, mem_ofList, List.mem_map]
  rfl

theorem ofList_map (f : α → β) (l : List α) : ofList (l.map f) = (ofList l).map f := by
  ext b
  simp

theorem map_id (s : SortedSet α) : s.map id = s := by
  ext a
  simp

theorem map_singleton (f : α → β) (a : α) : (singleton a).map f = singleton (f a) := by
  ext b
  simp [eq_comm]

@[simp]
theorem mem_flatMap {f : α → SortedSet β} : b ∈ s.flatMap f ↔ ∃ a ∈ s, b ∈ f a := by
  rw [flatMap, mem_ofList, List.mem_flatMap]
  rfl

theorem flatMap_union (s t : SortedSet α) (f : α → SortedSet β) :
    (s ∪ t).flatMap f = s.flatMap f ∪ t.flatMap f := by
  ext b
  simp [or_and_right, exists_or]

/-- If the sets of images are the images of sets, then so is their union. -/
theorem flatMap_map {γ δ : Type w} [TotalOrd γ] [TotalOrd δ] {f : α → β} {g : γ → δ}
    {F : α → SortedSet γ} {F' : β → SortedSet δ} (images : ∀ a ∈ s, F' (f a) = (F a).map g) :
    (s.map f).flatMap F' = (s.flatMap F).map g := by
  ext d
  simp only [mem_flatMap, mem_map]
  constructor
  · rintro ⟨_, ⟨a, ha, rfl⟩, hd⟩
    rw [images a ha, mem_map] at hd
    obtain ⟨c, hc, rfl⟩ := hd
    exact ⟨c, ⟨a, ha, hc⟩, rfl⟩
  · rintro ⟨c, ⟨a, ha, hc⟩, rfl⟩
    refine ⟨f a, ⟨a, ha, rfl⟩, ?_⟩
    rw [images a ha]
    exact mem_map.mpr ⟨c, hc, rfl⟩

end

end Determinize.SortedSet
