import Determinize.SortedSet.Lemmas

/-!
The look-up of a ceiling: the smallest member of a set that is not below a bound.
-/

universe u

namespace Determinize

variable {α : Type u} [TotalOrd α]

/-- Two values of which neither comes before the other are the same. -/
theorem eq_of_not_before {a b : α} (hab : ¬ Before a b) (hba : ¬ Before b a) : a = b := by
  rcases before_trichotomy a b with h | h | h
  · exact absurd h hab
  · exact h
  · exact absurd h hba

namespace SortedSet

variable {s : SortedSet α} {a b : α}

theorem isGE_compare_iff : (compare b a).isGE = true ↔ ¬ Before b a :=
  Ordering.isGE_iff_ne_lt

theorem ceiling?_eq_none_iff : s.ceiling? a = none ↔ ∀ c ∈ s, Before c a := by
  rw [ceiling?, List.find?_eq_none]
  refine forall₂_congr fun c _ => ?_
  rw [isGE_compare_iff, Decidable.not_not]

/-- The ceiling of a bound is a member, is not below the bound, and nothing that is not below
the bound is smaller. -/
theorem ceiling?_eq_some_iff : s.ceiling? a = some b ↔
    b ∈ s ∧ ¬ Before b a ∧ ∀ c ∈ s, ¬ Before c a → ¬ Before c b := by
  have found : ∀ d, s.ceiling? a = some d →
      d ∈ s ∧ ¬ Before d a ∧ ∀ c ∈ s, ¬ Before c a → ¬ Before c d := by
    intro d hd
    obtain ⟨hge, before, after, split, hbefore⟩ := List.find?_eq_some_iff_append.mp hd
    have sorted := s.ascending
    rw [split, List.pairwise_append] at sorted
    refine ⟨?_, isGE_compare_iff.mp hge, ?_⟩
    · rw [mem_def, split]
      exact List.mem_append_right _ List.mem_cons_self
    · intro c hc hca hcd
      rw [mem_def, split] at hc
      rcases List.mem_append.mp hc with hc | hc
      · have := hbefore c hc
        rw [isGE_compare_iff.mpr hca] at this
        cases this
      · rcases List.mem_cons.mp hc with rfl | hc
        · exact Before.irrefl _ hcd
        · exact Before.asymm hcd ((List.pairwise_cons.mp sorted.2.1).1 c hc)
  constructor
  · exact found b
  · rintro ⟨hb, hba, least⟩
    cases hd : s.ceiling? a with
    | none => exact absurd (ceiling?_eq_none_iff.mp hd b hb) hba
    | some d =>
      obtain ⟨hdmem, hda, hdleast⟩ := found d hd
      rw [eq_of_not_before (least d hdmem hda) (hdleast b hb hba)]

end SortedSet

end Determinize
