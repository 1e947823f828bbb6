import Mathlib.Algebra.Order.Group.Abs
import Mathlib.Algebra.Order.Group.MinMax
import Mathlib.Order.Interval.Set.Basic

/-!
# Approaching a target at a limited rate

A value approaches a target by steps of limited size: each step goes to the
point nearest to the target that the step can reach.  The bounds below are
those that a rate limiter gives over one step and over many.
-/

namespace RobotFirmware.SlewRate

variable {K : Type*} [AddCommGroup K] [LinearOrder K]

/-- The point nearest to the target at most a step away from the value. -/
def approach (value target step : K) : K :=
  max (value - step) (min target (value + step))

theorem approach_le_iff (value target step bound : K) :
    approach value target step ≤ bound ↔
      value - step ≤ bound ∧ (target ≤ bound ∨ value + step ≤ bound) := by
  rw [approach, max_le_iff, min_le_iff]

variable [IsOrderedAddMonoid K]

theorem le_approach_iff {value target step bound : K} (nonneg : 0 ≤ step) :
    bound ≤ approach value target step ↔
      bound ≤ value + step ∧ (bound ≤ target ∨ bound ≤ value - step) := by
  have smaller : value - step ≤ value + step :=
    (sub_le_self value nonneg).trans (le_add_of_nonneg_right nonneg)
  rw [approach, le_max_iff, le_min_iff]
  constructor
  · rintro (near | ⟨target, reach⟩)
    · exact ⟨near.trans smaller, .inr near⟩
    · exact ⟨reach, .inl target⟩
  · rintro ⟨reach, target | near⟩
    · exact .inr ⟨target, reach⟩
    · exact .inl near

/-- A step cannot leave the band around zero of the given width: the band is
within reach, and on neither side both the target and the whole step are
outside. -/
structure StaysWithin (value target step bound : K) : Prop where
  reach : |value| ≤ bound + step
  above : target ≤ bound ∨ value + step ≤ bound
  below : -bound ≤ target ∨ -bound ≤ value - step

theorem abs_approach_le_iff {value target step bound : K} (nonneg : 0 ≤ step) :
    |approach value target step| ≤ bound ↔ StaysWithin value target step bound := by
  rw [abs_le, le_approach_iff nonneg, approach_le_iff]
  constructor
  · rintro ⟨⟨low, below⟩, high, above⟩
    refine ⟨abs_le.mpr ⟨?_, sub_le_iff_le_add.mp high⟩, above, below⟩
    rw [neg_add, ← sub_eq_add_neg]
    exact sub_le_iff_le_add.mpr low
  · rintro ⟨reach, above, below⟩
    obtain ⟨low, high⟩ := abs_le.mp reach
    rw [neg_add, ← sub_eq_add_neg] at low
    exact ⟨⟨sub_le_iff_le_add.mp low, below⟩, sub_le_iff_le_add.mpr high, above⟩

/-- A step keeps a bound of the value and the target. -/
theorem abs_approach_le {value target step bound : K} (nonneg : 0 ≤ step)
    (valueLe : |value| ≤ bound) (targetLe : |target| ≤ bound) :
    |approach value target step| ≤ bound := by
  obtain ⟨low, high⟩ := abs_le.mp targetLe
  exact (abs_approach_le_iff nonneg).mpr
    ⟨valueLe.trans (le_add_of_nonneg_right nonneg), .inl high, .inl low⟩

/-- A step changes the magnitude by its size at most. -/
theorem abs_approach_le_add {value target step : K} (nonneg : 0 ≤ step) :
    |approach value target step| ≤ |value| + step := by
  have added : value + step ≤ |value| + step := add_le_add_left (le_abs_self value) step
  have removed : -(|value| + step) ≤ value - step := by
    rw [neg_add, ← sub_eq_add_neg]
    exact sub_le_sub_right (neg_abs_le value) step
  refine (abs_approach_le_iff nonneg).mpr ⟨?_, .inr added, .inr removed⟩
  rw [add_assoc]
  exact le_add_of_nonneg_right (add_nonneg nonneg nonneg)

/-- Steps towards zero add up until zero is reached. -/
theorem abs_approach_zero_le {value step bound : K} (nonneg : 0 ≤ step)
    (valueLe : |value| ≤ max 0 bound) :
    |approach value 0 step| ≤ max 0 (bound - step) := by
  have zeroLe : 0 ≤ max 0 (bound - step) := le_max_left _ _
  refine (abs_approach_le_iff nonneg).mpr ⟨?_, .inl zeroLe, .inl (neg_nonpos.mpr zeroLe)⟩
  refine valueLe.trans (max_le (add_nonneg zeroLe nonneg) ?_)
  exact sub_le_iff_le_add.mp (le_max_right _ _)

theorem approach_of_le {value target step : K} (nonneg : 0 ≤ step) (below : value ≤ target) :
    approach value target step = min target (value + step) :=
  max_eq_right ((sub_le_self value nonneg).trans (le_min below (le_add_of_nonneg_right nonneg)))

theorem approach_of_ge {value target step : K} (nonneg : 0 ≤ step) (above : target ≤ value) :
    approach value target step = max (value - step) target := by
  rw [approach, min_eq_left (above.trans (le_add_of_nonneg_right nonneg))]

/-- A step to a target within reach ends there. -/
theorem approach_eq_target {value target step : K} (near : |target - value| ≤ step) :
    approach value target step = target := by
  obtain ⟨low, high⟩ := abs_le.mp near
  rw [approach, min_eq_left (sub_le_iff_le_add'.mp high)]
  exact max_eq_right (sub_le_iff_le_add.mpr (neg_le_sub_iff_le_add.mp low))

/-- Two steps towards one target are one step of both sizes together. -/
theorem approach_approach {value target first second : K} (firstNonneg : 0 ≤ first)
    (secondNonneg : 0 ≤ second) :
    approach (approach value target first) target second =
      approach value target (first + second) := by
  have both : 0 ≤ first + second := add_nonneg firstNonneg secondNonneg
  rcases le_total value target with below | above
  · calc
      approach (approach value target first) target second
          = min target (min target (value + first) + second) := by
        rw [approach_of_le firstNonneg below, approach_of_le secondNonneg (min_le_left _ _)]
      _ = min target (value + first + second) := by
        rw [← min_add_add_right, ← min_assoc,
          min_eq_left (le_add_of_nonneg_right secondNonneg : target ≤ target + second)]
      _ = approach value target (first + second) := by rw [approach_of_le both below, add_assoc]
  · calc
      approach (approach value target first) target second
          = max (max (value - first) target - second) target := by
        rw [approach_of_ge firstNonneg above, approach_of_ge secondNonneg (le_max_right _ _)]
      _ = max (value - first - second) target := by
        rw [← max_sub_sub_right, max_assoc,
          max_eq_right (sub_le_self target secondNonneg : target - second ≤ target)]
      _ = approach value target (first + second) := by rw [approach_of_ge both above, sub_sub]

end RobotFirmware.SlewRate
