import Mathlib.Data.Rat.Floor
import Mathlib.Tactic

namespace Hawse.Lib.Rounding

/-- A quotient to the nearest whole, a half upward. -/
def halfUp (count scale : Nat) : Nat := (count * 2 + scale) / (scale * 2)

/-- A quotient in tenths: to the nearest one below ten, to the nearest whole from there. -/
def tenths (count scale : Nat) : Nat :=
  if halfUp (count * 10) scale < 100 then halfUp (count * 10) scale else halfUp count scale * 10

theorem round_eq_halfUp (count : Nat) {scale : Nat} (positive : 0 < scale) :
    round ((count : ℚ) / scale) = halfUp count scale := by
  have nonzero : (scale : ℚ) ≠ 0 := by exact_mod_cast positive.ne'
  have half : (count : ℚ) / scale + 1 / 2 = ((count * 2 + scale : Nat) : ℚ) / ((scale * 2 : Nat) : ℚ) := by
    push_cast
    field_simp
  rw [round_eq, half, Rat.floor_natCast_div_natCast, halfUp]
  exact (Int.natCast_ediv _ _).symm

theorem le_halfUp_iff {n count scale : Nat} (positive : 0 < scale) :
    n ≤ halfUp count scale ↔ n * (scale * 2) ≤ count * 2 + scale :=
  Nat.le_div_iff_mul_le (by omega)

theorem halfUp_mono {count larger : Nat} (order : count ≤ larger) (scale : Nat) :
    halfUp count scale ≤ halfUp larger scale :=
  Nat.div_le_div_right (by omega)

@[simp] theorem halfUp_one (count : Nat) : halfUp count 1 = count := by
  unfold halfUp
  omega

variable {count larger scale : Nat} (positive : 0 < scale)
include positive

/-- The two roundings agree on which side of ten a quotient is. -/
theorem ten_le_halfUp (many : 100 ≤ halfUp (count * 10) scale) : 10 ≤ halfUp count scale := by
  rw [le_halfUp_iff positive] at many ⊢
  omega

theorem tenths_mono (order : count ≤ larger) : tenths count scale ≤ tenths larger scale := by
  have finer : halfUp (count * 10) scale ≤ halfUp (larger * 10) scale := halfUp_mono (by omega) scale
  unfold tenths
  by_cases few : halfUp (larger * 10) scale < 100
  · rw [if_pos few, if_pos (finer.trans_lt few)]
    exact finer
  · have ten : 10 ≤ halfUp larger scale := ten_le_halfUp positive (not_lt.mp few)
    rw [if_neg few]
    split
    · omega
    · exact Nat.mul_le_mul_right 10 (halfUp_mono order scale)

end Hawse.Lib.Rounding
