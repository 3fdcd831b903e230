import Determinize.TotalOrd

/-!
The order of floating-point numbers. What is below a number is below every number that is at least as
large: `lt_of_lt_of_le`. It is true of values that are no numbers too, for nothing is below them and
nothing is above them.

For the proof a number is given its `place?` in a total order: first comes its kind, from minus
infinity to infinity, and among numbers of one kind the exponent and then the mantissa, both turned
around below zero.
-/

open Float.Model (UnpackedFloat)

namespace Determinize.FloatOrder

/-- The kind, the exponent and the mantissa of a number, as far as they matter. -/
def place? : UnpackedFloat → Option (Int × Int × Int)
  | .notANumber => none
  | .infinity .negative => some (-2, 0, 0)
  | .finite .negative mantissa exponent _ => some (-1, -exponent, -mantissa)
  | .zero _ => some (0, 0, 0)
  | .finite .positive mantissa exponent _ => some (1, exponent, mantissa)
  | .infinity .positive => some (2, 0, 0)

theorem compare_neg (i j : Int) : compare (-i) (-j) = compare j i := by
  simp only [compare, compareOfLessAndEq]
  grind

theorem compare_ofNat (m n : Nat) : compare (m : Int) n = compare m n := by
  rw [Int.compare_eq_ite_lt, Nat.compare_eq_ite_lt]
  simp

/-- Numbers are compared by their places. -/
theorem compare_eq (x y : UnpackedFloat) : x.compare y =
    (place? x).bind fun i => (place? y).map fun j => compare i j := by
  -- numbers of different kinds are compared by their kinds alone, and only kinds of finite numbers
  -- have more than one place
  rcases x with ⟨_ | _⟩ | _ | _ | ⟨_ | _, m, e, hm⟩ <;>
    rcases y with ⟨_ | _⟩ | _ | _ | ⟨_ | _, n, f, hn⟩ <;> try rfl
  case finite.negative.finite.negative =>
    have swapped : ((compare e f).then (compare m n)).swap = (compare f e).then (compare n m) := by
      rw [Ordering.swap_then, ← Std.OrientedCmp.eq_swap, ← Std.OrientedCmp.eq_swap]
    change some ((compare e f).then (compare m n)).swap =
      some (compare ((-1, -e, -m) : Int × Int × Int) (-1, -f, -n))
    simp [compare_pair, compare_neg, compare_ofNat, swapped]
  case finite.positive.finite.positive =>
    change some ((compare e f).then (compare m n)) =
      some (compare ((1, e, m) : Int × Int × Int) (1, f, n))
    simp [compare_pair, compare_ofNat]

theorem lt_iff {x y : UnpackedFloat} : x.lt y = true ↔
    ∃ i ∈ place? x, ∃ j ∈ place? y, compare i j = .lt := by
  simp only [UnpackedFloat.lt, beq_iff_eq, compare_eq, Option.bind_eq_some_iff,
    Option.map_eq_some_iff, Option.mem_def]

theorem le_iff {x y : UnpackedFloat} : x.le y = true ↔
    ∃ i ∈ place? x, ∃ j ∈ place? y, (compare i j).isLE = true := by
  rw [UnpackedFloat.le, compare_eq]
  cases place? x <;> cases place? y <;> simp

theorem lt_of_lt_of_le {x y z : Float} (below : x < y) (h : y ≤ z) : x < z := by
  obtain ⟨i, hi, j, hj, hij⟩ := lt_iff.mp (of_decide_eq_true below)
  obtain ⟨j', hj', k, hk, hjk⟩ := le_iff.mp (of_decide_eq_true h)
  obtain rfl : j = j' := Option.mem_unique hj hj'
  exact decide_eq_true (lt_iff.mpr ⟨i, hi, k, hk, Std.TransCmp.lt_of_lt_of_isLE hij hjk⟩)

end Determinize.FloatOrder
