import Determinize.SortedSet.History

/-!
Sets have one representation, and the order of sets is the lexicographic one.

* `SetHistory.mem_set_iff`: whatever is done to make a set, its members are the elements that were
  put into it. With `SortedSet.toList_eq_iff` this determines what is gone through: the only ascending
  list of these elements.
* `SortedSet.before_iff`: of two sets the one is smaller that is a proper prefix of the other or has
  the smaller element at the first place where they differ (`LexBefore`).
* `exists_split`: what has a property that is passed on to all that follows is at the end of a list.
-/

universe u

namespace Determinize

variable {α : Type u} [TotalOrd α]

/-! ### Histories of sets -/

/-- The search that stops at the first larger element misses nothing. -/
theorem Ascending.placeNew_fst {a : α} {l : List α} (h : l.Pairwise Before) :
    (placeNew a l).1 = true ↔ ¬ a ∈ l := by
  induction l with
  | nil => simp [placeNew]
  | cons b rest ih =>
    obtain ⟨hb, hrest⟩ := List.pairwise_cons.mp h
    cases hab : compare a b with
    | lt =>
      have missing : ¬ a ∈ b :: rest := by
        intro ha
        rcases List.mem_cons.mp ha with rfl | ha
        · exact Before.irrefl a hab
        · exact Before.asymm hab (hb a ha)
      simpa only [placeNew, hab, true_iff] using missing
    | eq => simp [placeNew, compare_eq_iff.mp hab]
    | gt =>
      have ne : a ≠ b := (Before.ne (compare_gt_iff.mp hab)).symm
      simp [placeNew, hab, ih hrest, ne]

namespace SortedSet

variable {s t : SortedSet α} {a : α} {l : List α}

theorem insertNew_fst : (s.insertNew a).1 = true ↔ ¬ a ∈ s := Ascending.placeNew_fst s.ascending

/-- The elements are gone through in the only ascending order that they have. -/
theorem toList_eq_iff : s.toList = l ↔ l.Pairwise Before ∧ ∀ a, a ∈ l ↔ a ∈ s := by
  constructor
  · rintro rfl
    exact ⟨s.ascending, fun a => Iff.rfl⟩
  · rintro ⟨ascending, members⟩
    exact Ascending.eq_of_ascending s.ascending ascending fun a => (members a).symm

end SortedSet

/-- The members of a set are what has been put into it. -/
theorem SetHistory.mem_set_iff {h : SetHistory α} {a : α} : a ∈ h.set ↔ a ∈ h.elements := by
  induction h with
  | new => exact iff_of_false (SortedSet.not_mem_empty a) List.not_mem_nil
  | singleton b => simp [set, elements]
  | ofList l => exact SortedSet.mem_ofList
  | ofArray l => exact SortedSet.mem_ofList
  | insert before b ih => simp [set, elements, SortedSet.insertNew_snd, ih, or_comm]
  | extend before l ih => simp [set, elements, ih]
  | unionWith before other ih ihOther => simp [set, elements, ih, ihOther]

/-! ### Total orders -/

/-- Comparing decides a total order in which only equal values compare as equal. -/
structure TotallyOrdered (α : Type u) [Ord α] : Prop where
  eq_iff : ∀ a b : α, compare a b = .eq ↔ a = b
  gt_iff : ∀ a b : α, compare a b = .gt ↔ compare b a = .lt
  trans : ∀ a b c : α, compare a b = .lt → compare b c = .lt → compare a c = .lt

theorem totallyOrdered : TotallyOrdered α where
  eq_iff _ _ := compare_eq_iff
  gt_iff _ _ := compare_gt_iff
  trans _ _ _ hab hbc := Before.trans hab hbc

/-! ### The lexicographic order -/

/-- The first list goes on as the second one after its end, or has the smaller element at the first
place where they differ. -/
def LexBefore (l m : List α) : Prop :=
  (∃ b rest, m = l ++ b :: rest) ∨
    ∃ front a b rest rest', l = front ++ a :: rest ∧ m = front ++ b :: rest' ∧ Before a b

theorem not_lexBefore_nil {l : List α} : ¬ LexBefore l [] := by
  rintro (⟨b, rest, h⟩ | ⟨front, a, b, rest, rest', -, h, -⟩)
  · simp at h
  · simp at h

theorem lexBefore_cons_cons_iff {a b : α} {l m : List α} :
    LexBefore (a :: l) (b :: m) ↔ Before a b ∨ a = b ∧ LexBefore l m := by
  constructor
  · rintro (⟨c, rest, h⟩ | ⟨front, c, d, rest, rest', hl, hm, hcd⟩)
    · obtain ⟨rfl, rfl⟩ := List.cons.inj h
      exact .inr ⟨rfl, .inl ⟨c, rest, rfl⟩⟩
    · cases front with
      | nil =>
        obtain ⟨rfl, rfl⟩ := List.cons.inj hl
        obtain ⟨rfl, rfl⟩ := List.cons.inj hm
        exact .inl hcd
      | cons x front =>
        obtain ⟨rfl, rfl⟩ := List.cons.inj hl
        obtain ⟨rfl, rfl⟩ := List.cons.inj hm
        exact .inr ⟨rfl, .inr ⟨front, c, d, rest, rest', rfl, rfl, hcd⟩⟩
  · rintro (hab | ⟨rfl, ⟨c, rest, rfl⟩ | ⟨front, c, d, rest, rest', rfl, rfl, hcd⟩⟩)
    · exact .inr ⟨[], a, b, l, m, rfl, rfl, hab⟩
    · exact .inl ⟨c, rest, rfl⟩
    · exact .inr ⟨a :: front, c, d, rest, rest', rfl, rfl, hcd⟩

theorem compare_list_eq_lt_iff {l m : List α} : compare l m = .lt ↔ LexBefore l m := by
  induction l generalizing m with
  | nil =>
    cases m with
    | nil => exact iff_of_false (by simp) not_lexBefore_nil
    | cons b m => exact iff_of_true rfl (.inl ⟨b, m, rfl⟩)
  | cons a l ih =>
    cases m with
    | nil => exact iff_of_false (by simp) not_lexBefore_nil
    | cons b m =>
      rw [List.compare_cons_cons, Ordering.then_eq_lt, compare_eq_iff, ih,
        lexBefore_cons_cons_iff]

/-- Sets are compared element by element, and a proper prefix is smaller. -/
theorem SortedSet.before_iff {s t : SortedSet α} : Before s t ↔ LexBefore s.toList t.toList :=
  compare_list_eq_lt_iff

/-! ### Ends of lists -/

omit [TotalOrd α] in
/-- If all that follows an element with a property has the property too, then the elements with it
are at the end. -/
theorem exists_split {l : List α} {p : α → Prop} (h : l.Pairwise fun a b => p a → p b) :
    ∃ front back, l = front ++ back ∧ (∀ a ∈ front, ¬ p a) ∧ ∀ a ∈ back, p a := by
  induction l with
  | nil => exact ⟨[], [], rfl, nofun, nofun⟩
  | cons a l ih =>
    obtain ⟨ha, hl⟩ := List.pairwise_cons.mp h
    by_cases hp : p a
    · exact ⟨[], a :: l, rfl, nofun, List.forall_mem_cons.mpr ⟨hp, fun b hb => ha b hb hp⟩⟩
    · obtain ⟨front, back, rfl, hfront, hback⟩ := ih hl
      exact ⟨a :: front, back, rfl, List.forall_mem_cons.mpr ⟨hp, hfront⟩, hback⟩

end Determinize
