import Determinize.Random.Checked
import Mathlib.Data.List.Nodup

/-!
The transitions that are attached in the end.

* `map_target_attach`: every state that is to be attached gets one transition, and they come in the
  order of these states.
* `of_mem_attach`: each of them comes from a smaller state and is on one of the letters. For this the
  draws have to keep their bounds, and the bounds must not be zero.
* `attachChecked_eq_ok`: under the same conditions nothing fails.
-/

namespace Determinize.Random

variable {σ : Type} {draws : Draws σ} {alphabet : List Char} {targets : List Nat}

/-- One transition is attached to each target. -/
theorem map_target_attach (draws : Draws σ) (alphabet : List Char) (targets : List Nat) (s : σ) :
    (attach draws alphabet targets s).1.map Transition.target = targets := by
  induction targets generalizing s with
  | nil => rfl
  | cons target targets ih => exact congrArg (target :: ·) (ih _)

/-- A transition comes from a smaller state and is on a letter. -/
theorem of_mem_attach (bounded : draws.Bounded) (ne : alphabet ≠ [])
    (positive : ∀ target ∈ targets, 0 < target) {s : σ} {t : Transition Nat Char}
    (h : t ∈ (attach draws alphabet targets s).1) : t.source < t.target ∧ t.symbol ∈ alphabet := by
  induction targets generalizing s with
  | nil => cases h
  | cons target targets ih =>
    obtain ⟨first, later⟩ := List.forall_mem_cons.mp positive
    rcases List.mem_cons.mp h with rfl | h
    · have index := (bounded alphabet.length (draws.below32 target s).2
        (List.length_pos_iff.mpr ne)).2
      refine ⟨(bounded target s first).1, ?_⟩
      rw [List.getElem?_eq_getElem index]
      exact List.getElem_mem index
    · exact ih later h

/-- Every target has a transition attached to it. -/
theorem exists_mem_attach (draws : Draws σ) (alphabet : List Char) {target : Nat}
    (h : target ∈ targets) (s : σ) :
    ∃ t ∈ (attach draws alphabet targets s).1, t.target = target := by
  rw [← map_target_attach draws alphabet targets s] at h
  exact List.mem_map.mp h

/-- Two transitions to the same state are the same one. -/
theorem eq_of_mem_attach (nodup : targets.Nodup) {s : σ} {t t' : Transition Nat Char}
    (ht : t ∈ (attach draws alphabet targets s).1) (ht' : t' ∈ (attach draws alphabet targets s).1)
    (same : t.target = t'.target) : t = t' := by
  rw [← map_target_attach draws alphabet targets s] at nodup
  exact List.inj_on_of_nodup_map nodup ht ht' same

/-! ### Failures -/

theorem checked_eq_ok {draw : Nat → σ → Nat × σ} {bound : Nat} (h : 0 < bound) (s : σ) :
    Draws.checked draw bound s = .ok (draw bound s) :=
  if_neg (Nat.ne_of_gt h)

theorem letterAt_eq_ok {index : Nat} (h : index < alphabet.length) :
    letterAt alphabet index = .ok (alphabet[index]?.getD 'a') := by
  rw [letterAt, List.getElem?_eq_getElem h]
  rfl

/-- Nothing fails if the draws keep their bounds. -/
theorem attachChecked_eq_ok (bounded : draws.Bounded) (ne : alphabet ≠ [])
    (positive : ∀ target ∈ targets, 0 < target) (s : σ) :
    attachChecked draws alphabet targets s = .ok (attach draws alphabet targets s) := by
  induction targets generalizing s with
  | nil => rfl
  | cons target targets ih =>
    obtain ⟨first, later⟩ := List.forall_mem_cons.mp positive
    have left : 0 < alphabet.length := List.length_pos_iff.mpr ne
    have letter := letterAt_eq_ok (bounded alphabet.length (draws.below32 target s).2 left).2
    simp only [attachChecked, attach, checked_eq_ok first, checked_eq_ok left, letter, ih later,
      bind, Except.bind]
    rfl

end Determinize.Random
