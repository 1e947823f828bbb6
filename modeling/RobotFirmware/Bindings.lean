import RobotFirmware.Drivetrain
import RobotFirmware.Shooter

/-!
# The subsystems that Lua can command

`bindings.cpp` gives Lua the tables `cxx.drivetrain`, `cxx.lifter` and
`cxx.shooter`.  A bot program acts on the robot only through their functions,
so what it does during one callback is a list of binding calls.
-/

namespace RobotFirmware

/-- `Lifter`: the last voltage sent to each arm motor. -/
@[ext]
structure Lifter (K : Type*) where
  leftArm : K
  rightArm : K
  deriving DecidableEq, Repr

namespace Lifter

variable {K : Type*} [Field K]

/-- The same voltage for both arm motors. -/
def setVoltage (volts : K) : Lifter K :=
  ⟨volts, volts⟩

def moveUp (_ : Lifter K) : Lifter K :=
  setVoltage (0.3 * 12.0)

def moveDown (_ : Lifter K) : Lifter K :=
  setVoltage (0.3 * -12.0)

def stop (_ : Lifter K) : Lifter K :=
  setVoltage 0

end Lifter

/-- The members of `RobotMain` that are bound to Lua and drive motors. -/
structure Actuators (K : Type*) where
  drivetrain : Drivetrain K
  lifter : Lifter K
  shooter : Shooter K

/-- A call of a binding that acts on the robot.  `drive` reads the clock. -/
inductive BindingCall (K : Type*)
  | drive (now speed rot : K)
  | moveUp
  | moveDown
  | stopLifter
  | intake
  | shoot (amount : K)
  | stopShooter
  deriving DecidableEq, Repr

/-- The call acts on the shooter. -/
def BindingCall.actsOnShooter {K : Type*} : BindingCall K → Bool
  | .intake => true
  | .shoot _ => true
  | .stopShooter => true
  | _ => false

namespace Actuators

variable {K : Type*} [Field K] [LinearOrder K] [FloorRing K]

/-- The functions installed by the `bind` functions of `bindings.cpp`. -/
def perform (actuators : Actuators K) : BindingCall K → Actuators K
  | .drive now speed rot =>
      { actuators with
        drivetrain := actuators.drivetrain.driveNormalized now speed rot }
  | .moveUp => { actuators with lifter := actuators.lifter.moveUp }
  | .moveDown => { actuators with lifter := actuators.lifter.moveDown }
  | .stopLifter => { actuators with lifter := actuators.lifter.stop }
  | .intake => { actuators with shooter := actuators.shooter.intake }
  | .shoot amount =>
      { actuators with shooter := (actuators.shooter.setShootLevel amount).shoot }
  | .stopShooter => { actuators with shooter := actuators.shooter.stop }

/-- The calls of one callback, in order. -/
def performAll (actuators : Actuators K) (calls : List (BindingCall K)) : Actuators K :=
  calls.foldl perform actuators

@[simp]
theorem performAll_nil (actuators : Actuators K) : actuators.performAll [] = actuators :=
  rfl

@[simp]
theorem performAll_cons (actuators : Actuators K) (call : BindingCall K)
    (calls : List (BindingCall K)) :
    actuators.performAll (call :: calls) = (actuators.perform call).performAll calls :=
  rfl

theorem performAll_append (actuators : Actuators K) (first second : List (BindingCall K)) :
    actuators.performAll (first ++ second) =
      (actuators.performAll first).performAll second :=
  List.foldl_append

theorem shooter_performAll_congr {first second : Actuators K}
    (equal : first.shooter = second.shooter) (calls : List (BindingCall K)) :
    (first.performAll calls).shooter = (second.performAll calls).shooter := by
  induction calls generalizing first second with
  | nil => exact equal
  | cons call calls ih =>
      apply ih
      cases call <;> simp [perform, equal]

end Actuators

end RobotFirmware
