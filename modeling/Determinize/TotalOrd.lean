/-!
Total orders. States and symbols are opaque to an automaton except that they can be compared,
so `TotalOrd` is all that the rest of the library asks of them. Pairs are ordered by their first
component and then by their second.
-/

universe u v

namespace Determinize

/-- A total order in which only equal values compare as equal. -/
class abbrev TotalOrd (α : Type u) := Ord α, Std.TransOrd α, Std.LawfulEqOrd α

/-- `a` comes strictly before `b`. -/
abbrev Before {α : Type u} [TotalOrd α] (a b : α) : Prop := compare a b = .lt

section

variable {α : Type u} [TotalOrd α] {a b c : α}

theorem compare_eq_iff : compare a b = .eq ↔ a = b :=
  ⟨Std.LawfulEqCmp.eq_of_compare, fun h => h ▸ Std.ReflCmp.compare_self⟩

theorem compare_gt_iff : compare a b = .gt ↔ Before b a :=
  Std.OrientedCmp.gt_iff_lt

theorem Before.trans (hab : Before a b) (hbc : Before b c) : Before a c :=
  Std.TransCmp.lt_trans hab hbc

theorem Before.irrefl (a : α) : ¬ Before a a := by
  simp [Before]

theorem Before.ne (h : Before a b) : a ≠ b := by
  rintro rfl
  exact Before.irrefl a h

theorem Before.asymm (hab : Before a b) : ¬ Before b a := fun hba =>
  Before.irrefl a (hab.trans hba)

/-- Of two values, one comes first or they are the same. -/
theorem before_trichotomy (a b : α) : Before a b ∨ a = b ∨ Before b a := by
  cases h : compare a b with
  | lt => exact .inl h
  | eq => exact .inr (.inl (compare_eq_iff.mp h))
  | gt => exact .inr (.inr (compare_gt_iff.mp h))

end

/-- Ordered values can be told apart by comparing them. -/
instance (priority := low) decidableEqOfTotalOrd {α : Type u} [TotalOrd α] : DecidableEq α :=
  fun _ _ => decidable_of_iff _ compare_eq_iff

section

variable {α : Type u} {β : Type v} [TotalOrd α] [TotalOrd β]

/-- Pairs are ordered by their first component and then by their second. -/
instance pairOrd : Ord (α × β) := lexOrd

instance pairTotalOrd : TotalOrd (α × β) where

theorem compare_pair (p q : α × β) :
    compare p q = (compare p.1 q.1).then (compare p.2 q.2) := rfl

end

/-- An order that is carried over along an injective function. -/
theorem lawfulEqOrd_of_injective {α : Type u} {β : Type v} [TotalOrd β] [Ord α] {f : α → β}
    (hf : ∀ a b : α, f a = f b → a = b) (hcmp : ∀ a b : α, compare a b = compare (f a) (f b)) :
    Std.LawfulEqOrd α where
  compare_self {a} := by rw [hcmp]; exact compare_eq_iff.mpr rfl
  eq_of_compare {a b} h := hf a b (compare_eq_iff.mp (hcmp a b ▸ h))

/-- An order that is carried over along any function is transitive. -/
theorem transOrd_of_compare {α : Type u} {β : Type v} [TotalOrd β] [Ord α] {f : α → β}
    (hcmp : ∀ a b : α, compare a b = compare (f a) (f b)) : Std.TransOrd α where
  eq_swap {a b} := by rw [hcmp a b, hcmp b a]; exact Std.OrientedCmp.eq_swap
  isLE_trans {a b c} := by rw [hcmp a b, hcmp b c, hcmp a c]; exact Std.TransCmp.isLE_trans

end Determinize
