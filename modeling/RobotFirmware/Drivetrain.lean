import Mathlib.Algebra.Order.Field.Basic
import RobotFirmware.Config

/-!
# The drivetrain

`drivetrain.cpp` turns normalised stick values into a linear and an angular
speed and passes them to `Drivetrain::drive`.  The model records the arguments
of the last `drive`; the wheel controllers below it are not modelled.  Its two
ingredients come first: the range class of `normalisablerange.hpp`, and the
slew rate limiter of WPILib as documented there.
-/

namespace RobotFirmware

/-- `juce::NormalisableRange` without remapping functions.  `expLog x skew`
stands for `std::exp (std::log (x) / skew)`. -/
structure NormalisableRange (K : Type*) where
  start : K
  end_ : K
  interval : K
  skew : K
  symmetricSkew : Bool
  expLog : K → K → K

namespace NormalisableRange

variable {K : Type*} [Field K] [LinearOrder K]

def clampTo0To1 (value : K) : K :=
  max 0 (min 1 value)

def convertFrom0to1 (range : NormalisableRange K) (proportion : K) : K :=
  let proportion := clampTo0To1 proportion
  if !range.symmetricSkew then
    let proportion :=
      if range.skew ≠ 1 ∧ 0 < proportion then
        range.expLog proportion range.skew
      else
        proportion
    range.start + (range.end_ - range.start) * proportion
  else
    let distanceFromMiddle := 2.0 * proportion - 1
    let distanceFromMiddle :=
      if range.skew ≠ 1 ∧ distanceFromMiddle ≠ 0 then
        range.expLog |distanceFromMiddle| range.skew *
          (if distanceFromMiddle < 0 then -1 else 1)
      else
        distanceFromMiddle
    range.start + (range.end_ - range.start) / 2.0 * (1 + distanceFromMiddle)

def snapToLegalValue [FloorRing K] (range : NormalisableRange K) (v : K) : K :=
  let v :=
    if 0 < range.interval then
      range.start + range.interval * (⌊(v - range.start) / range.interval + 0.5⌋ : Int)
    else
      v
  if v ≤ range.start ∨ range.end_ ≤ range.start then
    range.start
  else if range.end_ ≤ v then
    range.end_
  else
    v

end NormalisableRange

/-- `frc::SlewRateLimiter` with one rate for both directions. -/
structure SlewRateLimiter (K : Type*) where
  rateLimit : K
  prevVal : K
  prevTime : K
  deriving DecidableEq, Repr

def clamp {K : Type*} [LinearOrder K] (value low high : K) : K :=
  if value < low then low else if high < value then high else value

/-- `SlewRateLimiter::Calculate` at a given reading of the clock. -/
def SlewRateLimiter.calculate {K : Type*} [Field K] [LinearOrder K]
    (limiter : SlewRateLimiter K) (now input : K) : SlewRateLimiter K × K :=
  let elapsedTime := now - limiter.prevTime
  let prevVal :=
    limiter.prevVal +
      clamp (input - limiter.prevVal) (-limiter.rateLimit * elapsedTime)
        (limiter.rateLimit * elapsedTime)
  ({ limiter with prevVal := prevVal, prevTime := now }, prevVal)

/-- The arguments of `Drivetrain::drive`. -/
@[ext]
structure SetPoint (K : Type*) where
  xSpeed : K
  rot : K
  deriving DecidableEq, Repr

/-- The members of `Drivetrain` that decide what is passed to `drive`, with
the arguments of the last call. -/
structure Drivetrain (K : Type*) where
  maxSpeed : K
  maxAngularSpeed : K
  rotationThrottle : K
  /-- `frc::RobotBase::IsReal`. -/
  isReal : Bool
  speedRange : NormalisableRange K
  speedLimiter : SlewRateLimiter K
  rotLimiter : SlewRateLimiter K
  setPoint : SetPoint K

namespace Drivetrain

variable {K : Type*}

def drive (drivetrain : Drivetrain K) (xSpeed rot : K) : Drivetrain K :=
  { drivetrain with setPoint := ⟨xSpeed, rot⟩ }

variable [Field K] [LinearOrder K]

def calculateRotation (drivetrain : Drivetrain K) (now value : K) : Drivetrain K × K :=
  let value := value * drivetrain.rotationThrottle
  let value := if drivetrain.isReal then value * -1 else value
  let (rotLimiter, limited) := drivetrain.rotLimiter.calculate now value
  ({ drivetrain with rotLimiter := rotLimiter }, -limited * drivetrain.maxAngularSpeed)

variable [FloorRing K]

def calculateSpeed (drivetrain : Drivetrain K) (now value : K) : Drivetrain K × K :=
  let speedRange := drivetrain.speedRange
  let value := speedRange.snapToLegalValue value
  let value := (value - speedRange.start) / (speedRange.end_ - speedRange.start)
  let value := speedRange.convertFrom0to1 value
  let (speedLimiter, limited) := drivetrain.speedLimiter.calculate now value
  ({ drivetrain with speedLimiter := speedLimiter }, -limited * drivetrain.maxSpeed)

def driveNormalized (drivetrain : Drivetrain K) (now speed rotation : K) : Drivetrain K :=
  let (drivetrain, xSpeed) := drivetrain.calculateSpeed now speed
  let (drivetrain, rot) := drivetrain.calculateRotation now rotation
  drivetrain.drive xSpeed rot

/-- The drivetrain at construction. -/
def create (config : Config K) (isReal : Bool) (expLog : K → K → K) (now : K) :
    Drivetrain K where
  maxSpeed := config.number "drivetrain" "max_speed" 0
  maxAngularSpeed := config.number "drivetrain" "max_angular_speed" 0
  rotationThrottle := config.number "drivetrain" "rotation_throttle" 0
  isReal := isReal
  speedRange :=
    { start := -1
      end_ := 1
      interval := 0
      skew := config.number "gamepad" "skew_factor" 1
      symmetricSkew := true
      expLog := expLog }
  speedLimiter := ⟨3.0, 0, now⟩
  rotLimiter := ⟨3.0, 0, now⟩
  setPoint := ⟨0, 0⟩

end Drivetrain

end RobotFirmware
