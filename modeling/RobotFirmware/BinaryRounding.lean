import Mathlib.Algebra.Order.Floor.Ring
import Mathlib.Data.Int.Log
import Mathlib.Tactic.Linarith
import Mathlib.Tactic.NormNum
import Mathlib.Tactic.Ring

/-!
# Rounding to binary floating point

A number with a given count of significant binary digits is a whole multiple of
the unit in the last place, which depends on the magnitude.  Rounding takes the
nearest of these multiples, and of two that are equally near the even one.  The
range of exponents is not bounded here.
-/

namespace RobotFirmware.BinaryRounding

variable {K : Type*} [Field K] [LinearOrder K] [FloorRing K]

/-- The nearest integer; of two that are equally near, the even one. -/
def roundTiesToEven (x : K) : Int :=
  if 2 * Int.fract x < 1 then
    ⌊x⌋
  else if 1 < 2 * Int.fract x then
    ⌊x⌋ + 1
  else if Even ⌊x⌋ then
    ⌊x⌋
  else
    ⌊x⌋ + 1

/-- The unit in the last place at a number, with so many significant digits. -/
def ulp (precision : Nat) (x : K) : K :=
  2 ^ (Int.log 2 |x| + 1 - precision)

/-- The nearest number with so many significant digits. -/
def roundToPrecision (precision : Nat) (x : K) : K :=
  roundTiesToEven (x / ulp precision x) * ulp precision x

theorem roundTiesToEven_nonneg {x : K} (nonneg : 0 ≤ x) : 0 ≤ roundTiesToEven x := by
  have floor := Int.floor_nonneg.mpr nonneg
  unfold roundTiesToEven
  split_ifs <;> omega

variable [IsStrictOrderedRing K]

@[simp]
theorem roundTiesToEven_intCast (n : Int) : roundTiesToEven (n : K) = n := by
  simp [roundTiesToEven]

theorem abs_roundTiesToEven_sub_le (x : K) : |(roundTiesToEven x : K) - x| ≤ 1 / 2 := by
  have fract : Int.fract x = x - ⌊x⌋ := rfl
  have floorLe := Int.floor_le x
  have lessNext := Int.lt_floor_add_one x
  rw [abs_le]
  unfold roundTiesToEven
  split_ifs with below above even
  · constructor <;> linarith
  · push_cast
    constructor <;> linarith
  · constructor <;> linarith
  · push_cast
    constructor <;> linarith

theorem ulp_pos (precision : Nat) (x : K) : 0 < ulp precision x :=
  zpow_pos two_pos _

@[simp]
theorem roundToPrecision_zero (precision : Nat) : roundToPrecision precision (0 : K) = 0 := by
  simp [roundToPrecision, roundTiesToEven]

theorem roundToPrecision_nonneg (precision : Nat) {x : K} (nonneg : 0 ≤ x) :
    0 ≤ roundToPrecision precision x := by
  have unit := (ulp_pos precision x).le
  have multiple := roundTiesToEven_nonneg (div_nonneg nonneg unit)
  exact mul_nonneg (Int.cast_nonneg multiple) unit

/-- Rounding moves a number by half a unit in its last place at most. -/
theorem abs_roundToPrecision_sub_le (precision : Nat) (x : K) :
    |roundToPrecision precision x - x| ≤ 1 / 2 * ulp precision x := by
  have unit := ulp_pos precision x
  have scaled : roundToPrecision precision x - x =
      (roundTiesToEven (x / ulp precision x) - x / ulp precision x) * ulp precision x := by
    rw [sub_mul, div_mul_cancel₀ x unit.ne', roundToPrecision]
  rw [scaled, abs_mul, abs_of_pos unit]
  exact mul_le_mul_of_nonneg_right (abs_roundTiesToEven_sub_le _) unit.le

theorem log_abs_lt {precision : Nat} {x : K} (nonzero : x ≠ 0) (small : |x| < 2 ^ precision) :
    Int.log 2 |x| < precision := by
  apply (Int.lt_zpow_iff_log_lt one_lt_two (abs_pos.mpr nonzero)).mp
  simpa using small

/-- Numbers that are small for the precision lie no more than one apart. -/
theorem ulp_le_one {precision : Nat} {x : K} (nonzero : x ≠ 0) (small : |x| < 2 ^ precision) :
    ulp precision x ≤ 1 := by
  have exponent := log_abs_lt nonzero small
  exact zpow_le_one_of_nonpos₀ one_le_two (by omega)

/-- A small integer is a multiple of its unit in the last place. -/
theorem roundToPrecision_intCast {precision : Nat} {n : Int} (small : |(n : K)| < 2 ^ precision) :
    roundToPrecision precision (n : K) = n := by
  by_cases zero : (n : K) = 0
  · simp [zero]
  · have exponent := log_abs_lt zero small
    have unit := (ulp_pos precision (n : K)).ne'
    obtain ⟨digits, digitsEq⟩ := Int.eq_ofNat_of_zero_le
      (show 0 ≤ precision - (Int.log 2 |(n : K)| + 1) by omega)
    have multiple : (n : K) / ulp precision (n : K) = ((n * 2 ^ digits : Int) : K) := by
      rw [ulp, ← neg_sub, digitsEq, zpow_neg, div_inv_eq_mul]
      push_cast
      simp
    rw [roundToPrecision, multiple, roundTiesToEven_intCast, ← multiple, div_mul_cancel₀ _ unit]

theorem abs_roundToPrecision_sub_le_half {precision : Nat} {x : K}
    (small : |x| < 2 ^ precision) : |roundToPrecision precision x - x| ≤ 1 / 2 := by
  by_cases zero : x = 0
  · simp [zero]
  · have near := abs_roundToPrecision_sub_le precision x
    have unit := ulp_le_one zero small
    linarith

end RobotFirmware.BinaryRounding
