import Mathlib.Algebra.Order.Round
import Mathlib.Analysis.SpecialFunctions.Pow.Real
import Mathlib.Order.Hom.Basic
import Mathlib.Order.Interval.Set.ProjIcc
import Mathlib.Tactic.FieldSimp
import RobotFirmware.NormalisedDrive

/-!
# Conversions of a range

A range maps its values to proportions between 0 and 1 and back, with a skew
for the whole range or for each half of it, and snaps values to a grid.  The
two conversions are inverse to each other; snapping is a projection, except
beyond an end that is no legal value itself.
-/

namespace RobotFirmware

section Powers

variable {K : Type*} [Field K] [LinearOrder K]

/-- What `std::pow` and `std::exp (std::log (x) / skew)` are to each other on
the proportions. -/
structure PowerLaws (pow expLog : K → K → K) (skew : K) : Prop where
  pow_zero : pow 0 skew = 0
  pow_one : pow 1 skew = 1
  pow_lt : ∀ x y, 0 ≤ x → x < y → y ≤ 1 → pow x skew < pow y skew
  expLog_pos : ∀ x, 0 < x → x ≤ 1 → 0 < expLog x skew
  expLog_le : ∀ x, 0 < x → x ≤ 1 → expLog x skew ≤ 1
  pow_expLog : ∀ x, 0 < x → x ≤ 1 → pow (expLog x skew) skew = x

/-- The functions of the source, without rounding. -/
theorem powerLaws_real {skew : Real} (positive : 0 < skew) :
    PowerLaws (fun x skew => x ^ skew) (fun x skew => Real.exp (Real.log x / skew)) skew where
  pow_zero := Real.zero_rpow positive.ne'
  pow_one := Real.one_rpow skew
  pow_lt x y nonneg less _ := Real.rpow_lt_rpow nonneg less positive
  expLog_pos x _ _ := Real.exp_pos _
  expLog_le x pos le := Real.exp_le_one_iff.mpr
    (div_nonpos_of_nonpos_of_nonneg (Real.log_nonpos pos.le le) positive.le)
  pow_expLog x pos _ := by
    rw [← Real.exp_mul, div_mul_cancel₀ _ positive.ne', Real.exp_log pos]

/-- `std::pow` from the middle to both sides. -/
def signedPow (pow : K → K → K) (skew distance : K) : K :=
  pow |distance| skew * (if distance < 0 then -1 else 1)

namespace PowerLaws

variable {pow expLog : K → K → K} {skew : K} (laws : PowerLaws pow expLog skew)

include laws

theorem pow_pos {x : K} (positive : 0 < x) (le : x ≤ 1) : 0 < pow x skew :=
  laws.pow_zero.symm.trans_lt (laws.pow_lt 0 x le_rfl positive le)

theorem pow_nonneg {x : K} (nonneg : 0 ≤ x) (le : x ≤ 1) : 0 ≤ pow x skew := by
  rcases nonneg.eq_or_lt with rfl | positive
  · exact laws.pow_zero.ge
  · exact (laws.pow_pos positive le).le

variable [IsStrictOrderedRing K]

theorem signedPow_strictMonoOn : StrictMonoOn (signedPow pow skew) (Set.Icc (-1) 1) := by
  intro first firstIn second secondIn less
  simp only [signedPow]
  rcases lt_or_ge first 0 with negative | nonneg
  · rw [if_pos negative, abs_of_neg negative, mul_neg_one]
    have firstPos := laws.pow_pos (neg_pos.mpr negative) (neg_le.mp firstIn.1)
    rcases lt_or_ge second 0 with negative' | nonneg'
    · rw [if_pos negative', abs_of_neg negative', mul_neg_one, neg_lt_neg_iff]
      exact laws.pow_lt _ _ (neg_nonneg.mpr negative'.le) (neg_lt_neg less) (neg_le.mp firstIn.1)
    · rw [if_neg nonneg'.not_gt, abs_of_nonneg nonneg', mul_one]
      exact (neg_neg_of_pos firstPos).trans_le (laws.pow_nonneg nonneg' secondIn.2)
  · have nonneg' : 0 ≤ second := nonneg.trans less.le
    rw [if_neg nonneg.not_gt, if_neg nonneg'.not_gt, abs_of_nonneg nonneg, abs_of_nonneg nonneg',
      mul_one, mul_one]
    exact laws.pow_lt _ _ nonneg less secondIn.2

theorem signedPow_skewed (skews : skew ≠ 1) {distance : K} (within : |distance| ≤ 1) :
    signedPow pow skew (skewed expLog skew distance) = distance := by
  rcases eq_or_ne distance 0 with rfl | moves
  · rw [skewed_zero, signedPow, abs_zero, laws.pow_zero, zero_mul]
  · have positive := laws.expLog_pos |distance| (abs_pos.mpr moves) within
    have back := laws.pow_expLog |distance| (abs_pos.mpr moves) within
    rw [skewed, if_pos ⟨skews, moves⟩, signedPow]
    rcases lt_or_ge distance 0 with negative | nonneg
    · rw [if_pos negative, mul_neg_one, abs_neg, abs_of_pos positive, back,
        if_pos (neg_neg_of_pos positive), abs_of_neg negative, mul_neg_one, neg_neg]
    · rw [if_neg nonneg.not_gt, mul_one, abs_of_pos positive, back, if_neg positive.not_gt,
        abs_of_nonneg nonneg, mul_one]

end PowerLaws

end Powers

namespace NormalisableRange

variable {K : Type*} [Field K] [LinearOrder K]

/-- `checkInvariants`. -/
structure Valid (range : NormalisableRange K) : Prop where
  proper : range.start < range.end_
  interval_nonneg : 0 ≤ range.interval
  skew_pos : 0 < range.skew

/-- `convertTo0to1` without a remapping function. -/
def convertTo0to1 (pow : K → K → K) (range : NormalisableRange K) (v : K) : K :=
  let proportion := clampTo0To1 ((v - range.start) / (range.end_ - range.start))
  if range.skew = 1 then
    proportion
  else if !range.symmetricSkew then
    pow proportion range.skew
  else
    let distanceFromMiddle := 2.0 * proportion - 1
    (1 + pow |distanceFromMiddle| range.skew * (if distanceFromMiddle < 0 then -1 else 1)) / 2.0

section Skew

/-- What `convertTo0to1` does with a proportion. -/
def skewProportion (pow : K → K → K) (range : NormalisableRange K) (proportion : K) : K :=
  if range.skew = 1 then proportion
  else if !range.symmetricSkew then pow proportion range.skew
  else (1 + signedPow pow range.skew (2.0 * proportion - 1)) / 2.0

/-- What `convertFrom0to1` does with a proportion. -/
def unskewProportion (range : NormalisableRange K) (proportion : K) : K :=
  if range.symmetricSkew then
    (1 + skewed range.expLog range.skew (2.0 * proportion - 1)) / 2.0
  else if range.skew ≠ 1 ∧ 0 < proportion then
    range.expLog proportion range.skew
  else
    proportion

variable {pow : K → K → K} {range : NormalisableRange K}
  (laws : PowerLaws pow range.expLog range.skew) [IsStrictOrderedRing K]

omit laws in
theorem centred_half (distance : K) : 2.0 * ((1 + distance) / 2.0) - 1 = distance := by
  have two : (2.0 : K) = 2 := by norm_num
  rw [two]
  ring

omit laws in
theorem centred_mem_iff {proportion : K} :
    2.0 * proportion - 1 ∈ Set.Icc (-1 : K) 1 ↔ proportion ∈ Set.Icc (0 : K) 1 := by
  have two : (2.0 : K) = 2 := by norm_num
  rw [two, Set.mem_Icc, Set.mem_Icc]
  constructor <;> rintro ⟨low, high⟩ <;> constructor <;> linarith

include laws

theorem skewProportion_strictMonoOn :
    StrictMonoOn (range.skewProportion pow) (Set.Icc 0 1) := by
  have two : (0 : K) < 2.0 := by norm_num
  intro first firstIn second secondIn less
  unfold skewProportion
  split
  · exact less
  · split
    · exact laws.pow_lt first second firstIn.1 less secondIn.2
    · have apart := laws.signedPow_strictMonoOn (centred_mem_iff.mpr firstIn)
        (centred_mem_iff.mpr secondIn) (by gcongr)
      gcongr

theorem skewProportion_mem {proportion : K} (within : proportion ∈ Set.Icc (0 : K) 1) :
    range.skewProportion pow proportion ∈ Set.Icc (0 : K) 1 := by
  have monotone := (skewProportion_strictMonoOn laws).monotoneOn
  have zeroIn : (0 : K) ∈ Set.Icc (0 : K) 1 := ⟨le_rfl, zero_le_one⟩
  have oneIn : (1 : K) ∈ Set.Icc (0 : K) 1 := ⟨zero_le_one, le_rfl⟩
  have zeroEq : range.skewProportion pow 0 = 0 := by
    simp [skewProportion, signedPow, laws.pow_zero, laws.pow_one]
  have oneEq : range.skewProportion pow 1 = 1 := by
    have middle : (2.0 : K) * 1 - 1 = 1 := by norm_num
    simp only [skewProportion, signedPow, laws.pow_one, middle, abs_one, zero_lt_one.not_gt,
      if_false]
    norm_num
  constructor
  · rw [← zeroEq]
    exact monotone zeroIn within within.1
  · rw [← oneEq]
    exact monotone within oneIn within.2

theorem unskewProportion_mem {proportion : K} (within : proportion ∈ Set.Icc (0 : K) 1) :
    range.unskewProportion proportion ∈ Set.Icc (0 : K) 1 := by
  unfold unskewProportion
  split
  · have inRange : SkewInRange range.expLog range.skew :=
      fun x pos le => ⟨(laws.expLog_pos x pos le).le, laws.expLog_le x pos le⟩
    have bounded := abs_le.mp (abs_skewed_le inRange (abs_le.mpr (centred_mem_iff.mpr within)))
    rwa [← centred_mem_iff, centred_half]
  · split
    next skews =>
      exact ⟨(laws.expLog_pos _ skews.2 within.2).le, laws.expLog_le _ skews.2 within.2⟩
    next => exact within

theorem skewProportion_unskewProportion {proportion : K} (within : proportion ∈ Set.Icc (0 : K) 1) :
    range.skewProportion pow (range.unskewProportion proportion) = proportion := by
  have two : (2.0 : K) = 2 := by norm_num
  have back : (1 + (2.0 * proportion - 1)) / 2.0 = proportion := by
    rw [two]
    ring
  have distance : |2.0 * proportion - 1| ≤ 1 := abs_le.mpr (centred_mem_iff.mpr within)
  cases symmetric : range.symmetricSkew with
  | true =>
      by_cases skews : range.skew = 1
      · simp only [skewProportion, unskewProportion, symmetric, skews, skewed, ne_eq,
          not_true_eq_false, false_and, if_true, if_false, back]
      · simp only [skewProportion, unskewProportion, symmetric, skews, Bool.not_true,
          Bool.false_eq_true, if_true, if_false, centred_half, laws.signedPow_skewed skews distance, back]
  | false =>
      by_cases skews : range.skew = 1
      · simp [skewProportion, unskewProportion, symmetric, skews]
      · rcases within.1.eq_or_lt with rfl | positive
        · simp [skewProportion, unskewProportion, symmetric, skews, laws.pow_zero]
        · simp [skewProportion, unskewProportion, symmetric, skews, positive,
            laws.pow_expLog proportion positive within.2]

end Skew

section Conversion

theorem convertTo0to1_eq (pow : K → K → K) (range : NormalisableRange K) (v : K) :
    range.convertTo0to1 pow v =
      range.skewProportion pow (clampTo0To1 ((v - range.start) / (range.end_ - range.start))) :=
  rfl

theorem convertFrom0to1_eq (range : NormalisableRange K) (proportion : K) :
    range.convertFrom0to1 proportion =
      range.start +
        (range.end_ - range.start) * range.unskewProportion (clampTo0To1 proportion) := by
  cases symmetric : range.symmetricSkew with
  | false => simp [convertFrom0to1, unskewProportion, symmetric]
  | true =>
      simp only [convertFrom0to1, unskewProportion, symmetric, Bool.not_true, Bool.false_eq_true,
        if_true, if_false]
      rw [div_mul_eq_mul_div, mul_div_assoc]
      rfl

theorem clampTo0To1_of_mem {value : K} (within : value ∈ Set.Icc (0 : K) 1) :
    clampTo0To1 value = value := by
  rw [clampTo0To1, min_eq_right within.2, max_eq_right within.1]

variable {range : NormalisableRange K} [IsStrictOrderedRing K]

/-- The clamped proportion of a value is the proportion of the clamped value. -/
theorem clampTo0To1_div (valid : range.Valid) (v : K) :
    clampTo0To1 ((v - range.start) / (range.end_ - range.start)) =
      (max range.start (min range.end_ v) - range.start) / (range.end_ - range.start) := by
  have extent : 0 < range.end_ - range.start := sub_pos.mpr valid.proper
  rw [clampTo0To1, ← max_sub_sub_right, ← min_sub_sub_right, ← max_div_div_right extent.le,
    ← min_div_div_right extent.le, sub_self, zero_div, div_self extent.ne']

theorem clampTo0To1_mem (value : K) : clampTo0To1 value ∈ Set.Icc (0 : K) 1 :=
  ⟨le_max_left _ _, max_le zero_le_one (min_le_left _ _)⟩

/-- The proportion of a value inside the range needs no clamping. -/
theorem clampTo0To1_div_of_mem (valid : range.Valid) {v : K}
    (within : v ∈ Set.Icc range.start range.end_) :
    clampTo0To1 ((v - range.start) / (range.end_ - range.start)) =
      (v - range.start) / (range.end_ - range.start) := by
  rw [clampTo0To1_div valid, min_eq_right within.2, max_eq_right within.1]

theorem convertTo0to1_mem {pow : K → K → K} (laws : PowerLaws pow range.expLog range.skew)
    (v : K) : range.convertTo0to1 pow v ∈ Set.Icc (0 : K) 1 := by
  rw [convertTo0to1_eq]
  exact skewProportion_mem laws (clampTo0To1_mem _)

theorem convertTo0to1_strictMonoOn {pow : K → K → K} (valid : range.Valid)
    (laws : PowerLaws pow range.expLog range.skew) :
    StrictMonoOn (range.convertTo0to1 pow) (Set.Icc range.start range.end_) := by
  have extent : 0 < range.end_ - range.start := sub_pos.mpr valid.proper
  intro first firstIn second secondIn less
  have apart : (first - range.start) / (range.end_ - range.start) <
      (second - range.start) / (range.end_ - range.start) := by gcongr
  rw [convertTo0to1_eq, convertTo0to1_eq]
  apply skewProportion_strictMonoOn laws (clampTo0To1_mem _) (clampTo0To1_mem _)
  rwa [clampTo0To1_div_of_mem valid firstIn, clampTo0To1_div_of_mem valid secondIn]

theorem convertFrom0to1_mem {pow : K → K → K} (valid : range.Valid)
    (laws : PowerLaws pow range.expLog range.skew) (proportion : K) :
    range.convertFrom0to1 proportion ∈ Set.Icc range.start range.end_ := by
  have extent : 0 ≤ range.end_ - range.start := (sub_pos.mpr valid.proper).le
  obtain ⟨low, high⟩ := unskewProportion_mem laws (clampTo0To1_mem proportion)
  rw [convertFrom0to1_eq]
  refine ⟨le_add_of_nonneg_right (mul_nonneg extent low), ?_⟩
  exact le_sub_iff_add_le'.mp (mul_le_of_le_one_right extent high)

theorem convertTo0to1_convertFrom0to1 {pow : K → K → K} (valid : range.Valid)
    (laws : PowerLaws pow range.expLog range.skew) (proportion : K) :
    range.convertTo0to1 pow (range.convertFrom0to1 proportion) = clampTo0To1 proportion := by
  have extent : range.end_ - range.start ≠ 0 := (sub_pos.mpr valid.proper).ne'
  have clamped := clampTo0To1_mem proportion
  rw [convertTo0to1_eq, convertFrom0to1_eq, add_sub_cancel_left, mul_div_cancel_left₀ _ extent,
    clampTo0To1_of_mem (unskewProportion_mem laws clamped),
    skewProportion_unskewProportion laws clamped]

/-- **Conversions of a range.** In a range that passes its own check, with a
skew for the whole range or for each half of it, the two conversions are the two
directions of one order isomorphism between the range and the proportions from
0 to 1, after what is outside has been moved to the nearer end: they are strictly
increasing and onto, and each undoes the other. -/
theorem conversions_inverse (pow : K → K → K) (valid : range.Valid)
    (laws : PowerLaws pow range.expLog range.skew) :
    ∃ conversion : Set.Icc range.start range.end_ ≃o Set.Icc (0 : K) 1,
      (∀ v, range.convertTo0to1 pow v =
        conversion (Set.projIcc range.start range.end_ valid.proper.le v)) ∧
        ∀ proportion, range.convertFrom0to1 proportion =
          conversion.symm (Set.projIcc 0 1 zero_le_one proportion) := by
  let forth (v : Set.Icc range.start range.end_) : Set.Icc (0 : K) 1 :=
    ⟨range.convertTo0to1 pow v, convertTo0to1_mem laws v⟩
  let back (proportion : Set.Icc (0 : K) 1) : Set.Icc range.start range.end_ :=
    ⟨range.convertFrom0to1 proportion, convertFrom0to1_mem valid laws proportion⟩
  have increasing : StrictMono forth := fun first second less =>
    convertTo0to1_strictMonoOn valid laws first.property second.property less
  have inverse : Function.RightInverse back forth := fun proportion => Subtype.ext
    ((convertTo0to1_convertFrom0to1 valid laws _).trans (clampTo0To1_of_mem proportion.property))
  refine ⟨increasing.orderIsoOfRightInverse forth back inverse, fun v => ?_, fun proportion => ?_⟩
  · change _ = range.convertTo0to1 pow (max range.start (min range.end_ v))
    have inside : max range.start (min range.end_ v) ∈ Set.Icc range.start range.end_ :=
      (Set.projIcc range.start range.end_ valid.proper.le v).property
    rw [convertTo0to1_eq, convertTo0to1_eq, clampTo0To1_div valid,
      clampTo0To1_div_of_mem valid inside]
  · change _ = range.convertFrom0to1 (clampTo0To1 proportion)
    rw [convertFrom0to1_eq, convertFrom0to1_eq, clampTo0To1_of_mem (clampTo0To1_mem proportion)]

/-- The range of the sticks, skewed by two. -/
theorem conversions_inverse_stickRange :
    let expLog (x skew : Real) := Real.exp (Real.log x / skew)
    ∃ conversion : Set.Icc (-1 : Real) 1 ≃o Set.Icc (0 : Real) 1,
      (∀ v, (Drivetrain.stickRange 2 expLog).convertTo0to1 (fun x skew => x ^ skew) v =
        conversion (Set.projIcc (-1) 1 (by norm_num) v)) ∧
        ∀ proportion, (Drivetrain.stickRange 2 expLog).convertFrom0to1 proportion =
          conversion.symm (Set.projIcc 0 1 zero_le_one proportion) := by
  intro expLog
  have valid : (Drivetrain.stickRange 2 expLog).Valid :=
    ⟨by norm_num [Drivetrain.stickRange], le_rfl, by norm_num [Drivetrain.stickRange]⟩
  exact conversions_inverse _ valid (powerLaws_real valid.skew_pos)

end Conversion

section Snap

variable {range : NormalisableRange K} [FloorRing K]

/-- The nearest point of the grid; without an interval every value is one. -/
def nearestStep (range : NormalisableRange K) (v : K) : K :=
  if 0 < range.interval then
    range.start + range.interval * (round ((v - range.start) / range.interval) : Int)
  else
    v

variable [IsStrictOrderedRing K]

theorem snapToLegalValue_eq (valid : range.Valid) (v : K) :
    range.snapToLegalValue v = max range.start (min range.end_ (range.nearestStep v)) := by
  have half : (0.5 : K) = 1 / 2 := by norm_num
  have cut (value : K) :
      (if value ≤ range.start ∨ range.end_ ≤ range.start then range.start
        else if range.end_ ≤ value then range.end_ else value) =
        max range.start (min range.end_ value) := by
    simp only [valid.proper.not_ge, or_false]
    by_cases low : value ≤ range.start
    · rw [if_pos low, max_eq_left ((min_le_right _ _).trans low)]
    · rw [if_neg low]
      by_cases high : range.end_ ≤ value
      · rw [if_pos high, min_eq_left high, max_eq_right valid.proper.le]
      · rw [if_neg high, min_eq_right (not_le.mp high).le, max_eq_right (not_le.mp low).le]
  rw [snapToLegalValue, nearestStep, half]
  simp only [cut, round_eq]

theorem nearestStep_mono (range : NormalisableRange K) : Monotone range.nearestStep := by
  intro first second le
  unfold nearestStep
  split
  next positive =>
    have steps : round ((first - range.start) / range.interval) ≤
        round ((second - range.start) / range.interval) := by
      rw [round_eq, round_eq]
      gcongr
    gcongr
  next => exact le

theorem nearestStep_nearestStep (range : NormalisableRange K) (v : K) :
    range.nearestStep (range.nearestStep v) = range.nearestStep v := by
  by_cases positive : 0 < range.interval
  · simp only [nearestStep, if_pos positive]
    rw [add_sub_cancel_left, mul_div_cancel_left₀ _ positive.ne', round_intCast]
  · simp only [nearestStep, if_neg positive]

theorem nearestStep_start (range : NormalisableRange K) :
    range.nearestStep range.start = range.start := by
  simp [nearestStep]

theorem abs_nearestStep_sub_le (valid : range.Valid) (v : K) :
    |range.nearestStep v - v| ≤ range.interval / 2 := by
  by_cases positive : 0 < range.interval
  · have scaled : range.nearestStep v - v =
        range.interval * ((round ((v - range.start) / range.interval) : Int) -
          (v - range.start) / range.interval) := by
      rw [nearestStep, if_pos positive, mul_sub, mul_div_cancel₀ _ positive.ne']
      ring
    rw [scaled, abs_mul, abs_of_pos positive, abs_sub_comm, div_eq_mul_one_div range.interval 2]
    exact mul_le_mul_of_nonneg_left (abs_sub_round _) positive.le
  · rw [nearestStep, if_neg positive, sub_self, abs_zero]
    exact div_nonneg valid.interval_nonneg zero_le_two

theorem snapToLegalValue_mem (valid : range.Valid) (v : K) :
    range.snapToLegalValue v ∈ Set.Icc range.start range.end_ := by
  rw [snapToLegalValue_eq valid]
  exact ⟨le_max_left _ _, max_le valid.proper.le (min_le_left _ _)⟩

theorem snapToLegalValue_mono (valid : range.Valid) : Monotone range.snapToLegalValue := by
  intro first second le
  rw [snapToLegalValue_eq valid, snapToLegalValue_eq valid]
  exact max_le_max_left _ (min_le_min_left _ (range.nearestStep_mono le))

theorem snapToLegalValue_start (valid : range.Valid) :
    range.snapToLegalValue range.start = range.start := by
  rw [snapToLegalValue_eq valid, nearestStep_start, min_eq_right valid.proper.le, max_self]

theorem abs_snapToLegalValue_sub_le (valid : range.Valid) {v : K}
    (within : v ∈ Set.Icc range.start range.end_) :
    |range.snapToLegalValue v - v| ≤ range.interval / 2 := by
  obtain ⟨low, high⟩ := abs_le.mp (abs_nearestStep_sub_le valid v)
  have nonneg : 0 ≤ range.interval / 2 := div_nonneg valid.interval_nonneg zero_le_two
  rw [snapToLegalValue_eq valid, abs_le]
  constructor
  · rw [le_sub_iff_add_le]
    refine le_max_of_le_right (le_min ?_ (le_sub_iff_add_le.mp low))
    exact (add_le_of_nonpos_left (neg_nonpos.mpr nonneg)).trans within.2
  · rw [sub_le_iff_le_add]
    refine max_le ?_ ((min_le_right _ _).trans (sub_le_iff_le_add.mp high))
    exact within.1.trans (le_add_of_nonneg_left nonneg)

/-- What has been snapped is snapped again to itself, or is the upper end. -/
theorem snapToLegalValue_snapToLegalValue (valid : range.Valid) {v : K}
    (within : v ∈ Set.Icc range.start range.end_) :
    range.snapToLegalValue (range.snapToLegalValue v) = range.snapToLegalValue v := by
  rcases le_or_gt (range.nearestStep v) range.start with low | aboveStart
  · have atStart : range.snapToLegalValue v = range.start := by
      rw [snapToLegalValue_eq valid, max_eq_left ((min_le_right _ _).trans low)]
    rw [atStart, snapToLegalValue_start valid]
  · rcases lt_or_ge (range.nearestStep v) range.end_ with inside | high
    · have atStep : range.snapToLegalValue v = range.nearestStep v := by
        rw [snapToLegalValue_eq valid, min_eq_right inside.le, max_eq_right aboveStart.le]
      rw [atStep, snapToLegalValue_eq valid, nearestStep_nearestStep, min_eq_right inside.le,
        max_eq_right aboveStart.le]
    · -- The end is no lower than the value, so it is snapped upwards as well.
      have atEnd {value : K} (reaches : range.end_ ≤ range.nearestStep value) :
          range.snapToLegalValue value = range.end_ := by
        rw [snapToLegalValue_eq valid, min_eq_left reaches, max_eq_right valid.proper.le]
      rw [atEnd high, atEnd (high.trans (range.nearestStep_mono within.2))]

/-- **Snapping.** In a range that passes its own check, snapping gives values
of the range, keeps their order and moves those of the range by half of the
interval at most.  Within the range a snapped value is snapped to itself, and
beyond it this is so if and only if the upper end is a legal value. -/
theorem snapping_projects (valid : range.Valid) :
    (∀ v, range.snapToLegalValue v ∈ Set.Icc range.start range.end_) ∧
      Monotone range.snapToLegalValue ∧
        (∀ v ∈ Set.Icc range.start range.end_,
          |range.snapToLegalValue v - v| ≤ range.interval / 2 ∧
            range.snapToLegalValue (range.snapToLegalValue v) = range.snapToLegalValue v) ∧
          ((∀ v, range.snapToLegalValue (range.snapToLegalValue v) = range.snapToLegalValue v) ↔
            range.snapToLegalValue range.end_ = range.end_) := by
  refine ⟨snapToLegalValue_mem valid, snapToLegalValue_mono valid, fun v within =>
    ⟨abs_snapToLegalValue_sub_le valid within, snapToLegalValue_snapToLegalValue valid within⟩, ?_⟩
  constructor
  · intro projects
    -- A whole interval beyond the end, the nearest point of the grid is beyond it too.
    have near := (abs_le.mp (abs_nearestStep_sub_le valid (range.end_ + range.interval))).1
    have beyond : range.end_ ≤ range.nearestStep (range.end_ + range.interval) := by
      have nonneg := valid.interval_nonneg
      linarith
    have again := projects (range.end_ + range.interval)
    rwa [snapToLegalValue_eq valid (range.end_ + range.interval), min_eq_left beyond,
      max_eq_right valid.proper.le] at again
  · intro legal v
    rcases lt_or_ge v range.start with below | aboveStart
    · have atStart : range.snapToLegalValue v = range.start :=
        le_antisymm
          ((snapToLegalValue_mono valid below.le).trans_eq (snapToLegalValue_start valid))
          (snapToLegalValue_mem valid v).1
      rw [atStart, snapToLegalValue_start valid]
    · rcases le_or_gt v range.end_ with inside | beyond
      · exact snapToLegalValue_snapToLegalValue valid ⟨aboveStart, inside⟩
      · have atEnd : range.snapToLegalValue v = range.end_ :=
          le_antisymm (snapToLegalValue_mem valid v).2
            (legal.symm.trans_le (snapToLegalValue_mono valid beyond.le))
        rw [atEnd, legal]

/-- A grid of 0.3 from 0 does not meet 1, so 1.2 is snapped to 1 and 1 to 0.9. -/
theorem snapping_projects_thirds :
    let range : NormalisableRange Rat := ⟨0, 1, 0.3, 1, false, fun x _ => x⟩
    (∀ v, range.snapToLegalValue v ∈ Set.Icc 0 1) ∧
      Monotone range.snapToLegalValue ∧
        (∀ v ∈ Set.Icc (0 : Rat) 1, |range.snapToLegalValue v - v| ≤ 0.3 / 2 ∧
          range.snapToLegalValue (range.snapToLegalValue v) = range.snapToLegalValue v) ∧
          ((∀ v, range.snapToLegalValue (range.snapToLegalValue v) = range.snapToLegalValue v) ↔
            range.snapToLegalValue 1 = 1) :=
  snapping_projects ⟨by decide +kernel, by decide +kernel, by decide +kernel⟩

end Snap

section Centre

/-- `setSkewForCentre`.  `log` stands for `std::log`. -/
def setSkewForCentre (log : K → K) (range : NormalisableRange K) (centrePointValue : K) :
    NormalisableRange K :=
  { range with
    symmetricSkew := false
    skew := log 0.5 / log ((centrePointValue - range.start) / (range.end_ - range.start)) }

/-- **Skew for a centre.** For a point inside the range, the range passes its own
check afterwards, and converts the proportion in the middle to the point and the
point to the middle. -/
theorem setSkewForCentre_spec {range : NormalisableRange Real} (valid : range.Valid)
    (expLog : range.expLog = fun x skew => Real.exp (Real.log x / skew))
    {centrePointValue : Real} (inside : centrePointValue ∈ Set.Ioo range.start range.end_) :
    let skewed := range.setSkewForCentre Real.log centrePointValue
    skewed.Valid ∧ skewed.convertFrom0to1 0.5 = centrePointValue ∧
      skewed.convertTo0to1 (fun x skew => x ^ skew) centrePointValue = 0.5 := by
  intro skewed
  have extent : 0 < range.end_ - range.start := sub_pos.mpr valid.proper
  set proportion := (centrePointValue - range.start) / (range.end_ - range.start) with proportionEq
  have positive : 0 < proportion := div_pos (sub_pos.mpr inside.1) extent
  have below : proportion < 1 := (div_lt_one extent).mpr (sub_lt_sub_right inside.2 _)
  have logHalf : Real.log 0.5 < 0 := Real.log_neg (by norm_num) (by norm_num)
  have logProportion : Real.log proportion < 0 := Real.log_neg positive below
  have skewEq : skewed.skew = Real.log 0.5 / Real.log proportion := rfl
  have validSkewed : skewed.Valid :=
    ⟨valid.proper, valid.interval_nonneg, div_pos_of_neg_of_neg logHalf logProportion⟩
  have half : clampTo0To1 (0.5 : Real) = 0.5 :=
    clampTo0To1_of_mem ⟨by norm_num, by norm_num⟩
  have middle : skewed.unskewProportion 0.5 = proportion := by
    have plain : skewed.symmetricSkew = false := rfl
    have sameExpLog : skewed.expLog = range.expLog := rfl
    by_cases one : skewed.skew = 1
    · have same : Real.log 0.5 = Real.log proportion :=
        (div_eq_one_iff_eq logProportion.ne).mp (skewEq.symm.trans one)
      have equal := Real.log_injOn_pos (Set.mem_Ioi.mpr (by norm_num : (0 : Real) < 0.5))
        (Set.mem_Ioi.mpr positive) same
      simp [unskewProportion, plain, one, equal]
    · have skews : skewed.skew ≠ 1 ∧ (0 : Real) < 0.5 := ⟨one, by norm_num⟩
      rw [unskewProportion, if_neg (by simp [plain]), if_pos skews, sameExpLog, expLog, skewEq]
      simp only [div_div_cancel₀ logHalf.ne, Real.exp_log positive]
  have from0to1 : skewed.convertFrom0to1 0.5 = centrePointValue := by
    have sameStart : skewed.start = range.start := rfl
    have sameEnd : skewed.end_ = range.end_ := rfl
    rw [convertFrom0to1_eq, half, middle, proportionEq, sameStart, sameEnd,
      mul_div_cancel₀ _ extent.ne', add_sub_cancel]
  have laws : PowerLaws (fun x skew => x ^ skew) skewed.expLog skewed.skew := by
    have sameExpLog : skewed.expLog = range.expLog := rfl
    rw [sameExpLog, expLog]
    exact powerLaws_real validSkewed.skew_pos
  refine ⟨validSkewed, from0to1, ?_⟩
  rw [← from0to1, convertTo0to1_convertFrom0to1 validSkewed laws, half]

/-- A range from 0 to 1 with a quarter in the middle. -/
theorem setSkewForCentre_spec_quarter :
    let range : NormalisableRange Real :=
      ⟨0, 1, 0, 1, false, fun x skew => Real.exp (Real.log x / skew)⟩
    let skewed := range.setSkewForCentre Real.log 0.25
    skewed.Valid ∧ skewed.convertFrom0to1 0.5 = 0.25 ∧
      skewed.convertTo0to1 (fun x skew => x ^ skew) 0.25 = 0.5 :=
  setSkewForCentre_spec ⟨by norm_num, le_rfl, by norm_num⟩ rfl ⟨by norm_num, by norm_num⟩

end Centre

end NormalisableRange

end RobotFirmware
