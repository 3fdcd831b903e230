import Determinize.TotalOrd

/-!
Strictly ascending lists. `place` puts one element at its place, `merge` unites two ascending
lists and `arrange` brings the elements of any list into ascending order, each of them once. Each
operation keeps lists ascending (`pairwise_`) and is described by its members (`mem_`).
-/

universe u

namespace Determinize.Ascending

variable {α : Type u} [TotalOrd α]

theorem pairwise_nil : ([] : List α).Pairwise Before := .nil

/-! ### One more element -/

/-- Puts `a` at its place in an ascending list, unless it is there already. -/
def place (a : α) : List α → List α
  | [] => [a]
  | b :: rest =>
    match compare a b with
    | .lt => a :: b :: rest
    | .eq => b :: rest
    | .gt => b :: place a rest

theorem mem_place {a x : α} {l : List α} : x ∈ place a l ↔ x = a ∨ x ∈ l := by
  induction l with
  | nil => simp [place]
  | cons b rest ih =>
    cases h : compare a b with
    | lt => simp [place, h]
    | eq => simp [place, compare_eq_iff.mp h]
    | gt => simp [place, h, ih, or_left_comm]

theorem pairwise_place (a : α) {l : List α} (h : l.Pairwise Before) :
    (place a l).Pairwise Before := by
  induction l with
  | nil => simp [place]
  | cons b rest ih =>
    obtain ⟨hb, hrest⟩ := List.pairwise_cons.mp h
    cases hab : compare a b with
    | lt =>
      simp only [place, hab]
      refine List.pairwise_cons.mpr ⟨?_, h⟩
      intro x hx
      rcases List.mem_cons.mp hx with rfl | hx
      · exact hab
      · exact Before.trans hab (hb x hx)
    | eq => simpa only [place, hab] using h
    | gt =>
      simp only [place, hab]
      refine List.pairwise_cons.mpr ⟨?_, ih hrest⟩
      intro x hx
      rcases mem_place.mp hx with rfl | hx
      · exact compare_gt_iff.mp hab
      · exact hb x hx

/-- An element that is put into a list for the first time makes it longer by one. -/
theorem perm_place {l : List α} (h : ¬ a ∈ l) : (place a l).Perm (a :: l) := by
  induction l with
  | nil => exact .refl _
  | cons b rest ih =>
    obtain ⟨hab, hrest⟩ := not_or.mp (mt List.mem_cons.mpr h)
    cases hc : compare a b with
    | lt => simp [place, hc]
    | eq => exact absurd (compare_eq_iff.mp hc) hab
    | gt =>
      simp only [place, hc]
      exact ((ih hrest).cons b).trans (.swap a b rest)

/-! ### Merging -/

/-- Merges `x :: xs` with an ascending list; `mergeRest` merges `xs` with one. -/
def mergeCons (x : α) (xs : List α) (mergeRest : List α → List α) : List α → List α
  | [] => x :: xs
  | y :: ys =>
    match compare x y with
    | .lt => x :: mergeRest (y :: ys)
    | .eq => x :: mergeRest ys
    | .gt => y :: mergeCons x xs mergeRest ys

/-- Merges two ascending lists; what is in both of them is kept once. -/
def merge : List α → List α → List α
  | [], ys => ys
  | x :: xs, ys => mergeCons x xs (merge xs) ys

theorem mem_merge {a : α} {xs ys : List α} : a ∈ merge xs ys ↔ a ∈ xs ∨ a ∈ ys := by
  induction xs generalizing ys with
  | nil => simp [merge]
  | cons x xs ih =>
    rw [merge]
    induction ys with
    | nil => simp [mergeCons]
    | cons y ys ihy =>
      cases h : compare x y with
      | lt => simp [mergeCons, h, ih, or_assoc]
      | eq =>
        obtain rfl := compare_eq_iff.mp h
        simp only [mergeCons, h, ih, List.mem_cons]
        grind
      | gt =>
        simp only [mergeCons, h, ihy, List.mem_cons]
        grind

theorem pairwise_merge {xs ys : List α} (hx : xs.Pairwise Before) (hy : ys.Pairwise Before) :
    (merge xs ys).Pairwise Before := by
  induction xs generalizing ys with
  | nil => exact hy
  | cons x xs ih =>
    obtain ⟨hxs, hx'⟩ := List.pairwise_cons.mp hx
    induction ys with
    | nil => exact hx
    | cons y ys ihy =>
      obtain ⟨hys, hy'⟩ := List.pairwise_cons.mp hy
      rw [merge]
      cases h : compare x y with
      | lt =>
        simp only [mergeCons, h]
        refine List.pairwise_cons.mpr ⟨fun a ha => ?_, ih hx' hy⟩
        rcases mem_merge.mp ha with ha | ha
        · exact hxs a ha
        · rcases List.mem_cons.mp ha with rfl | ha
          · exact h
          · exact Before.trans h (hys a ha)
      | eq =>
        obtain rfl := compare_eq_iff.mp h
        simp only [mergeCons, h]
        refine List.pairwise_cons.mpr ⟨fun a ha => ?_, ih hx' hy'⟩
        exact (mem_merge.mp ha).elim (hxs a) (hys a)
      | gt =>
        simp only [mergeCons, h]
        refine List.pairwise_cons.mpr ⟨fun a ha => ?_, ihy hy'⟩
        have hyx : Before y x := compare_gt_iff.mp h
        rcases mem_merge.mp (show a ∈ merge (x :: xs) ys from ha) with ha | ha
        · rcases List.mem_cons.mp ha with rfl | ha
          · exact hyx
          · exact Before.trans hyx (hxs a ha)
        · exact hys a ha

/-! ### Arranging -/

/-- Adds an ascending list to a row of ascending lists, in which an empty list is a free place.
As in a binary counter, the list is merged with those it meets until it finds a free place. -/
def carry (run : List α) : List (List α) → List (List α)
  | [] => [run]
  | [] :: runs => run :: runs
  | (x :: xs) :: runs => [] :: carry (merge (x :: xs) run) runs

theorem mem_flatten_carry {a : α} {run : List α} {runs : List (List α)} :
    a ∈ (carry run runs).flatten ↔ a ∈ run ∨ a ∈ runs.flatten := by
  fun_induction carry run runs with
  | case1 => simp
  | case2 => simp
  | case3 run x xs runs ih =>
    simp only [List.flatten_cons, List.nil_append, ih, mem_merge, List.mem_append]
    grind

theorem pairwise_carry {run : List α} {runs : List (List α)} (h : run.Pairwise Before)
    (hs : ∀ r ∈ runs, r.Pairwise Before) : ∀ r ∈ carry run runs, r.Pairwise Before := by
  fun_induction carry run runs with
  | case1 => simpa using h
  | case2 run runs =>
    simp only [List.mem_cons, forall_eq_or_imp] at hs ⊢
    exact ⟨h, hs.2⟩
  | case3 run x xs runs ih =>
    simp only [List.mem_cons, forall_eq_or_imp] at hs ⊢
    exact ⟨.nil, ih (pairwise_merge hs.1 h) hs.2⟩

/-- The elements of a list in ascending order, each of them once. -/
def arrange (l : List α) : List α :=
  (l.foldr (fun a runs => carry [a] runs) []).foldr merge []

theorem mem_foldr_merge {a : α} {runs : List (List α)} :
    a ∈ runs.foldr merge [] ↔ a ∈ runs.flatten := by
  induction runs with
  | nil => rfl
  | cons run runs ih => simp [mem_merge, ih]

theorem pairwise_foldr_merge {runs : List (List α)} (h : ∀ r ∈ runs, r.Pairwise Before) :
    (runs.foldr merge []).Pairwise Before := by
  induction runs with
  | nil => exact .nil
  | cons run runs ih =>
    simp only [List.mem_cons, forall_eq_or_imp] at h
    exact pairwise_merge h.1 (ih h.2)

theorem mem_arrange {a : α} {l : List α} : a ∈ arrange l ↔ a ∈ l := by
  rw [arrange, mem_foldr_merge]
  induction l with
  | nil => simp
  | cons b l ih => simp only [List.foldr_cons, mem_flatten_carry, ih, List.mem_cons,
      List.not_mem_nil, or_false]

theorem pairwise_arrange (l : List α) : (arrange l).Pairwise Before := by
  refine pairwise_foldr_merge ?_
  induction l with
  | nil => simp
  | cons b l ih => exact pairwise_carry (List.pairwise_singleton _ _) ih

/-! ### Members determine the list -/

/-- Ascending lists with the same members are the same list. -/
theorem eq_of_ascending {l m : List α} (hl : l.Pairwise Before) (hm : m.Pairwise Before)
    (h : ∀ a, a ∈ l ↔ a ∈ m) : l = m := by
  induction l generalizing m with
  | nil =>
    cases m with
    | nil => rfl
    | cons b m => exact absurd ((h b).mpr List.mem_cons_self) List.not_mem_nil
  | cons a l ih =>
    cases m with
    | nil => exact absurd ((h a).mp List.mem_cons_self) List.not_mem_nil
    | cons b m =>
      obtain ⟨ha, hl'⟩ := List.pairwise_cons.mp hl
      obtain ⟨hb, hm'⟩ := List.pairwise_cons.mp hm
      have head : a = b := by
        rcases List.mem_cons.mp ((h a).mp List.mem_cons_self) with hab | ham
        · exact hab
        · rcases List.mem_cons.mp ((h b).mpr List.mem_cons_self) with hba | hbl
          · exact hba.symm
          · exact absurd (ha b hbl) (Before.asymm (hb a ham))
      subst head
      congr 1
      refine ih hl' hm' fun x => ⟨fun hx => ?_, fun hx => ?_⟩
      · exact (List.mem_cons.mp ((h x).mp (List.mem_cons_of_mem _ hx))).resolve_left
          (Before.ne (ha x hx)).symm
      · exact (List.mem_cons.mp ((h x).mpr (List.mem_cons_of_mem _ hx))).resolve_left
          (Before.ne (hb x hx)).symm

end Determinize.Ascending
