import Mathlib.Tactic

/-!
A token bucket over an ordered field: a level that refills at a steady rate up to a capacity.
-/

namespace Hawse.Lib.TokenBucket
variable {K : Type*} [Field K] [LinearOrder K]

def refilled (capacity rate level elapsed : K) : K := min (level + rate * elapsed) capacity

variable {capacity rate level : K}

theorem refilled_le_capacity (elapsed : K) : refilled capacity rate level elapsed ≤ capacity :=
  min_le_right _ _

theorem refilled_zero (bounded : level ≤ capacity) : refilled capacity rate level 0 = level := by
  simp [refilled, bounded]

variable [IsStrictOrderedRing K]

theorem refilled_capacity (nonneg : 0 ≤ rate) {elapsed : K} (later : 0 ≤ elapsed) :
    refilled capacity rate capacity elapsed = capacity :=
  min_eq_right (le_add_of_nonneg_right (mul_nonneg nonneg later))

theorem le_refilled (nonneg : 0 ≤ rate) (bounded : level ≤ capacity) {elapsed : K}
    (later : 0 ≤ elapsed) : level ≤ refilled capacity rate level elapsed :=
  le_min (le_add_of_nonneg_right (mul_nonneg nonneg later)) bounded

theorem refilled_refilled (nonneg : 0 ≤ rate) {first second : K} (later : 0 ≤ second) :
    refilled capacity rate (refilled capacity rate level first) second =
      refilled capacity rate level (first + second) := by
  have gain : 0 ≤ rate * second := mul_nonneg nonneg later
  simp only [refilled, min_add, mul_add, min_assoc]
  rw [min_eq_right (le_add_of_nonneg_right gain), add_assoc]

theorem refilled_add_le (nonneg : 0 ≤ rate) {first second : K} (later : 0 ≤ second) :
    refilled capacity rate level (first + second) ≤
      refilled capacity rate level first + rate * second := by
  rw [← refilled_refilled nonneg later]
  exact min_le_left _ _

end Hawse.Lib.TokenBucket
