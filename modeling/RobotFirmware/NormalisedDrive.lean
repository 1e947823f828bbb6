import Mathlib.Algebra.Order.Field.Basic
import Mathlib.Analysis.SpecialFunctions.Log.Basic
import Mathlib.Tactic.Linarith
import Mathlib.Tactic.NormNum
import Mathlib.Tactic.Ring
import RobotFirmware.Drivetrain
import RobotFirmware.SlewRate

/-!
# Normalised driving

`driveNormalized` takes a speed and a rotation, gives each to a slew rate
limiter and scales what the limiters return to the configured maxima.  The
lemmas below say what the limiters are given, and that they approach it at
three units a second.
-/

namespace RobotFirmware

open SlewRate

section Calculate

variable {K : Type*} [Field K] [LinearOrder K] [IsStrictOrderedRing K]

theorem add_clamp_eq_approach (value target : K) {step : K} (nonneg : 0 ≤ step) :
    value + clamp (target - value) (-step) step = approach value target step := by
  unfold clamp approach
  by_cases below : target - value < -step
  · rw [if_pos below, min_eq_left (by linarith), max_eq_left (by linarith), sub_eq_add_neg]
  · rw [if_neg below]
    by_cases above : step < target - value
    · rw [if_pos above, min_eq_right (by linarith), max_eq_right (by linarith)]
    · rw [if_neg above, min_eq_left (by linarith), max_eq_right (by linarith)]
      ring

/-- A limiter approaches its input, at its rate, since its last calculation. -/
theorem SlewRateLimiter.calculate_eq (limiter : SlewRateLimiter K) {now : K} (input : K)
    (forward : limiter.prevTime ≤ now) (rate : 0 ≤ limiter.rateLimit) :
    let limited :=
      approach limiter.prevVal input (limiter.rateLimit * (now - limiter.prevTime))
    limiter.calculate now input = ({ limiter with prevVal := limited, prevTime := now }, limited) := by
  have nonneg : 0 ≤ limiter.rateLimit * (now - limiter.prevTime) :=
    mul_nonneg rate (sub_nonneg.mpr forward)
  simp only [calculate, neg_mul, add_clamp_eq_approach _ _ nonneg]

end Calculate

/-- The skew map of a symmetric range: `sign(d) * |d|^(1/skew)`. -/
def skewed {K : Type*} [Field K] [LinearOrder K] (expLog : K → K → K) (skew distance : K) : K :=
  if skew ≠ 1 ∧ distance ≠ 0 then
    expLog |distance| skew * (if distance < 0 then -1 else 1)
  else
    distance

/-- `std::exp (std::log (x) / skew)` has its values between 0 and 1 where a
range is skewed. -/
def SkewInRange {K : Type*} [Field K] [LinearOrder K] (expLog : K → K → K) (skew : K) : Prop :=
  ∀ distance, 0 < distance → distance ≤ 1 →
    0 ≤ expLog distance skew ∧ expLog distance skew ≤ 1

/-- The functions of the source, without rounding. -/
theorem skewInRange_exp_log {skew : Real} (positive : 0 < skew) :
    SkewInRange (fun x skew => Real.exp (Real.log x / skew)) skew := by
  intro distance distancePos distanceLe
  refine ⟨(Real.exp_pos _).le, Real.exp_le_one_iff.mpr ?_⟩
  exact div_nonpos_of_nonpos_of_nonneg (Real.log_nonpos distancePos.le distanceLe) positive.le

section Skew

variable {K : Type*} [Field K] [LinearOrder K]

@[simp]
theorem skewed_zero (expLog : K → K → K) (skew : K) : skewed expLog skew 0 = 0 := by
  simp [skewed]

variable [IsStrictOrderedRing K]

theorem abs_skewed_le {expLog : K → K → K} {skew : K} (inRange : SkewInRange expLog skew)
    {distance : K} (within : |distance| ≤ 1) : |skewed expLog skew distance| ≤ 1 := by
  unfold skewed
  split
  next skews =>
    obtain ⟨nonneg, le⟩ := inRange |distance| (abs_pos.mpr skews.2) within
    rw [abs_mul, abs_of_nonneg nonneg]
    split <;> simpa using le
  next => exact within

end Skew

namespace Drivetrain

section Settings

variable {K : Type*}

/-- What the constructor of a drivetrain sets for good. -/
structure Settings (K : Type*) where
  maxSpeed : K
  maxAngularSpeed : K
  rotationThrottle : K
  isReal : Bool
  speedRange : NormalisableRange K
  speedRate : K
  rotRate : K

def settings (drivetrain : Drivetrain K) : Settings K where
  maxSpeed := drivetrain.maxSpeed
  maxAngularSpeed := drivetrain.maxAngularSpeed
  rotationThrottle := drivetrain.rotationThrottle
  isReal := drivetrain.isReal
  speedRange := drivetrain.speedRange
  speedRate := drivetrain.speedLimiter.rateLimit
  rotRate := drivetrain.rotLimiter.rateLimit

variable [Field K]

/-- The range of both sticks. -/
def stickRange (skew : K) (expLog : K → K → K) : NormalisableRange K where
  start := -1
  end_ := 1
  interval := 0
  skew := skew
  symmetricSkew := true
  expLog := expLog

/-- The settings that a configuration gives. -/
def configured (config : Config K) (isReal : Bool) (expLog : K → K → K) : Settings K :=
  (create config isReal expLog 0).settings

theorem settings_create (config : Config K) (isReal : Bool) (expLog : K → K → K) (now : K) :
    (create config isReal expLog now).settings = configured config isReal expLog :=
  rfl

variable [LinearOrder K]

/-- A drivetrain with the settings of a configuration, whose limiters have made
no calculation after a given time. -/
structure ReadyAt (config : Config K) (isReal : Bool) (expLog : K → K → K) (now : K)
    (drivetrain : Drivetrain K) : Prop where
  settings_eq : drivetrain.settings = configured config isReal expLog
  speedTime : drivetrain.speedLimiter.prevTime ≤ now
  rotTime : drivetrain.rotLimiter.prevTime ≤ now

namespace ReadyAt

variable {config : Config K} {isReal : Bool} {expLog : K → K → K} {now : K}
  {drivetrain : Drivetrain K}

theorem maxSpeed_eq (ready : ReadyAt config isReal expLog now drivetrain) :
    drivetrain.maxSpeed = config.number "drivetrain" "max_speed" 0 :=
  congrArg Settings.maxSpeed ready.settings_eq

theorem maxAngularSpeed_eq (ready : ReadyAt config isReal expLog now drivetrain) :
    drivetrain.maxAngularSpeed = config.number "drivetrain" "max_angular_speed" 0 :=
  congrArg Settings.maxAngularSpeed ready.settings_eq

theorem speedRange_eq (ready : ReadyAt config isReal expLog now drivetrain) :
    drivetrain.speedRange = stickRange (config.number "gamepad" "skew_factor" 1) expLog :=
  congrArg Settings.speedRange ready.settings_eq

theorem mono (ready : ReadyAt config isReal expLog now drivetrain) {later : K}
    (forward : now ≤ later) : ReadyAt config isReal expLog later drivetrain :=
  ⟨ready.settings_eq, ready.speedTime.trans forward, ready.rotTime.trans forward⟩

end ReadyAt

end Settings

variable {K : Type*} [Field K] [LinearOrder K]

/-- What `calculateRotation` gives to its limiter. -/
def rotationTarget (drivetrain : Drivetrain K) (rotation : K) : K :=
  let value := rotation * drivetrain.rotationThrottle
  if drivetrain.isReal then value * -1 else value

/-- On the range of the sticks, converting a proportion is the skew map. -/
theorem convertFrom0to1_stickRange [IsStrictOrderedRing K] (skew : K) (expLog : K → K → K)
    {distance : K} (within : |distance| ≤ 1) :
    (stickRange skew expLog).convertFrom0to1 ((distance - -1) / (1 - -1)) =
      skewed expLog skew distance := by
  obtain ⟨low, high⟩ := abs_le.mp within
  have two : (2.0 : K) = 2 := by norm_num
  have proportion : NormalisableRange.clampTo0To1 ((distance - -1) / (1 - -1)) =
      (distance + 1) / 2 := by
    rw [NormalisableRange.clampTo0To1, sub_neg_eq_add, sub_neg_eq_add, one_add_one_eq_two,
      min_eq_right (by linarith), max_eq_right (by linarith)]
  have middle : (2 : K) * ((distance + 1) / 2) - 1 = distance := by ring
  have back (distance : K) : (-1 : K) + (1 - -1) / 2 * (1 + distance) = distance := by ring
  simp only [NormalisableRange.convertFrom0to1, stickRange, proportion, two, middle, back,
    Bool.not_true, Bool.false_eq_true, ↓reduceIte]
  rfl

variable [FloorRing K]

theorem snapToLegalValue_stickRange [IsStrictOrderedRing K] (skew : K) (expLog : K → K → K)
    (value : K) : (stickRange skew expLog).snapToLegalValue value = max (-1) (min 1 value) := by
  have proper : ¬ (1 : K) ≤ -1 := by
    rw [not_le]
    exact neg_one_lt_zero.trans zero_lt_one
  simp only [NormalisableRange.snapToLegalValue, stickRange, lt_self_iff_false, ↓reduceIte, proper,
    or_false]
  by_cases low : value ≤ -1
  · rw [if_pos low, max_eq_left ((min_le_right _ _).trans low)]
  · rw [if_neg low]
    by_cases high : 1 ≤ value
    · rw [if_pos high, min_eq_left high, max_eq_right (by linarith)]
    · rw [if_neg high, min_eq_right (by linarith), max_eq_right (by linarith)]

/-- What `calculateSpeed` gives to its limiter. -/
def speedTarget (drivetrain : Drivetrain K) (speed : K) : K :=
  let speedRange := drivetrain.speedRange
  let value := speedRange.snapToLegalValue speed
  speedRange.convertFrom0to1 ((value - speedRange.start) / (speedRange.end_ - speedRange.start))

theorem speedTarget_eq [IsStrictOrderedRing K] {drivetrain : Drivetrain K} {skew : K}
    {expLog : K → K → K} (range : drivetrain.speedRange = stickRange skew expLog) (speed : K) :
    drivetrain.speedTarget speed = skewed expLog skew (max (-1) (min 1 speed)) := by
  have within : |max (-1) (min 1 speed)| ≤ (1 : K) :=
    abs_le.mpr ⟨le_max_left _ _, max_le (by linarith) (min_le_left _ _)⟩
  rw [speedTarget, range, snapToLegalValue_stickRange]
  exact convertFrom0to1_stickRange skew expLog within

theorem abs_speedTarget_le [IsStrictOrderedRing K] {drivetrain : Drivetrain K} {skew : K}
    {expLog : K → K → K} (range : drivetrain.speedRange = stickRange skew expLog)
    (inRange : SkewInRange expLog skew) (speed : K) : |drivetrain.speedTarget speed| ≤ 1 := by
  rw [speedTarget_eq range]
  exact abs_skewed_le inRange
    (abs_le.mpr ⟨le_max_left _ _, max_le (by linarith) (min_le_left _ _)⟩)

theorem settings_driveNormalized (drivetrain : Drivetrain K) (now speed rotation : K) :
    (drivetrain.driveNormalized now speed rotation).settings = drivetrain.settings :=
  rfl

/-- Normalised driving moves both limiters towards their targets, at three
units a second since their last calculations, and drives with what they hold. -/
theorem ReadyAt.driveNormalized_eq [IsStrictOrderedRing K] {config : Config K} {isReal : Bool}
    {expLog : K → K → K} {now : K} {drivetrain : Drivetrain K}
    (ready : ReadyAt config isReal expLog now drivetrain) (speed rotation : K) :
    let limitedSpeed := approach drivetrain.speedLimiter.prevVal (drivetrain.speedTarget speed)
      (3.0 * (now - drivetrain.speedLimiter.prevTime))
    let limitedRot := approach drivetrain.rotLimiter.prevVal (drivetrain.rotationTarget rotation)
      (3.0 * (now - drivetrain.rotLimiter.prevTime))
    drivetrain.driveNormalized now speed rotation =
      { drivetrain with
        speedLimiter := ⟨3.0, limitedSpeed, now⟩
        rotLimiter := ⟨3.0, limitedRot, now⟩
        setPoint :=
          ⟨-limitedSpeed * drivetrain.maxSpeed, -limitedRot * drivetrain.maxAngularSpeed⟩ } := by
  have speedRate : drivetrain.speedLimiter.rateLimit = 3.0 :=
    congrArg Settings.speedRate ready.settings_eq
  have rotRate : drivetrain.rotLimiter.rateLimit = 3.0 :=
    congrArg Settings.rotRate ready.settings_eq
  have rate : (0 : K) ≤ 3.0 := by norm_num
  have speedCalculated := drivetrain.speedLimiter.calculate_eq (drivetrain.speedTarget speed)
    ready.speedTime (rate.trans_eq speedRate.symm)
  have rotCalculated := drivetrain.rotLimiter.calculate_eq (drivetrain.rotationTarget rotation)
    ready.rotTime (rate.trans_eq rotRate.symm)
  simp only [speedRate] at speedCalculated
  simp only [rotRate] at rotCalculated
  calc
    drivetrain.driveNormalized now speed rotation =
        { drivetrain with
          speedLimiter :=
            (drivetrain.speedLimiter.calculate now (drivetrain.speedTarget speed)).1
          rotLimiter :=
            (drivetrain.rotLimiter.calculate now (drivetrain.rotationTarget rotation)).1
          setPoint :=
            ⟨-(drivetrain.speedLimiter.calculate now (drivetrain.speedTarget speed)).2 *
                drivetrain.maxSpeed,
              -(drivetrain.rotLimiter.calculate now (drivetrain.rotationTarget rotation)).2 *
                drivetrain.maxAngularSpeed⟩ } := rfl
    _ = _ := by rw [speedCalculated, rotCalculated]

end Drivetrain

end RobotFirmware
