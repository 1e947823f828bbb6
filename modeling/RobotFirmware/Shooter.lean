import Mathlib.Algebra.Order.Field.Basic
import RobotFirmware.Config

/-!
# The shooter

`shooter.cpp` controls four motors by a state machine with the states `Idle`,
`Shooting` and `Loading`.  Motor controllers latch the last voltage they were
sent, so the voltages are part of the state.  `int` members are unbounded
integers here, and `int` division truncates.
-/

namespace RobotFirmware

/-- `Shooter::State`. -/
inductive Shooter.State
  | idle
  | shooting
  | loading
  deriving DecidableEq, Repr

/-- The last voltage sent to each shooter motor. -/
@[ext]
structure ShooterMotors (K : Type*) where
  primaryTop : K
  primaryBottom : K
  secondaryTop : K
  secondaryBottom : K
  deriving DecidableEq, Repr

/-- One voltage for both primary motors and one for both secondary motors. -/
def ShooterMotors.pair {K : Type*} (primary secondary : K) : ShooterMotors K :=
  ⟨primary, primary, secondary, secondary⟩

/-- The members of `Shooter`, with the voltages latched by its motors. -/
structure Shooter (K : Type*) where
  state : Shooter.State
  lastState : Shooter.State
  shootLevel : K
  warmTimeMs : Int
  shootTimeMs : Int
  totalTimeMs : Int
  periodMs : Int
  tick : Int
  delay : Int
  delayTicks : Int
  shootPower : K
  intakePrimaryPower : K
  intakeSecondaryPower : K
  motors : ShooterMotors K
  deriving DecidableEq, Repr

namespace Shooter

variable {K : Type*}

def isIdle (shooter : Shooter K) : Bool :=
  shooter.state == .idle

def isLoading (shooter : Shooter K) : Bool :=
  shooter.state == .loading

def isShooting (shooter : Shooter K) : Bool :=
  shooter.state == .shooting

@[simp]
theorem isShooting_iff (shooter : Shooter K) :
    shooter.isShooting = true ↔ shooter.state = .shooting := by
  simp [isShooting]

def setShootLevel (level : K) (shooter : Shooter K) : Shooter K :=
  { shooter with shootLevel := level }

def intake (shooter : Shooter K) : Shooter K :=
  if shooter.state ≠ .idle then shooter else { shooter with state := .loading }

/-- `Shooter::shoot`.  Dividing by a period of zero is undefined in C++; the
quotient is zero here. -/
def shoot (shooter : Shooter K) : Shooter K :=
  if shooter.state ≠ .idle then
    shooter
  else
    let totalTimeMs := shooter.warmTimeMs + shooter.shootTimeMs
    { shooter with
      state := .shooting
      totalTimeMs := totalTimeMs
      tick := max shooter.periodMs (totalTimeMs.tdiv shooter.periodMs)
      delayTicks := max shooter.periodMs (shooter.warmTimeMs.tdiv shooter.periodMs)
      delay := 0 }

def stop (shooter : Shooter K) : Shooter K :=
  { shooter with state := .idle }

variable [Field K] [LinearOrder K]

/-- `std::max (0.2, std::min (1.0, _shootLevel))`. -/
def level (shooter : Shooter K) : K :=
  max 0.2 (min 1 shooter.shootLevel)

/-- The voltage of a shot. -/
def shootVolts (shooter : Shooter K) : K :=
  shooter.shootPower * shooter.level

/-- The `switch` of `Shooter::process`: what the current state sends to the
motors.  A warming shot leaves the secondary motors as they are. -/
def commandMotors (shooter : Shooter K) : Shooter K :=
  match shooter.state with
  | .loading =>
      { shooter with
        motors := .pair shooter.intakePrimaryPower shooter.intakeSecondaryPower }
  | .shooting =>
      let volts := shooter.shootVolts
      let motors := { shooter.motors with primaryTop := volts, primaryBottom := volts }
      { shooter with
        motors :=
          if shooter.delayTicks ≤ shooter.delay then
            { motors with secondaryTop := volts, secondaryBottom := volts }
          else
            motors
        delay := shooter.delay + 1 }
  | .idle => { shooter with motors := .pair 0 0 }

def process (shooter : Shooter K) : Shooter K :=
  let shooter := shooter.commandMotors
  let shooter :=
    if shooter.isShooting then
      let tick := shooter.tick - 1
      -- The shot is over; the motors keep what was just sent.
      { shooter with tick := tick, state := if tick ≤ 0 then .idle else shooter.state }
    else
      shooter
  { shooter with lastState := shooter.state }

/-- The motor command of a shot. -/
def shotMotors (shooter : Shooter K) : ShooterMotors K :=
  if shooter.delayTicks ≤ shooter.delay then
    .pair shooter.shootVolts shooter.shootVolts
  else
    { shooter.motors with
      primaryTop := shooter.shootVolts
      primaryBottom := shooter.shootVolts }

theorem process_idle {shooter : Shooter K} (idle : shooter.state = .idle) :
    shooter.process = { shooter with lastState := .idle, motors := .pair 0 0 } := by
  simp [process, commandMotors, isShooting, idle]

theorem process_loading {shooter : Shooter K} (loading : shooter.state = .loading) :
    shooter.process =
      { shooter with
        lastState := .loading
        motors := .pair shooter.intakePrimaryPower shooter.intakeSecondaryPower } := by
  simp [process, commandMotors, isShooting, loading]

theorem process_shooting {shooter : Shooter K} (shooting : shooter.state = .shooting) :
    shooter.process =
      { shooter with
        state := if shooter.tick - 1 ≤ 0 then .idle else .shooting
        lastState := if shooter.tick - 1 ≤ 0 then .idle else .shooting
        tick := shooter.tick - 1
        delay := shooter.delay + 1
        motors := shooter.shotMotors } := by
  simp [process, commandMotors, isShooting, shooting, shotMotors, ShooterMotors.pair]

theorem process_frame (shooter : Shooter K) :
    ∃ state lastState tick delay motors, shooter.process =
      { shooter with
        state := state
        lastState := lastState
        tick := tick
        delay := delay
        motors := motors } := by
  cases state : shooter.state with
  | idle => exact ⟨_, _, _, _, _, process_idle state⟩
  | loading => exact ⟨_, _, _, _, _, process_loading state⟩
  | shooting => exact ⟨_, _, _, _, _, process_shooting state⟩

theorem process_state_eq_loading_iff (shooter : Shooter K) :
    shooter.process.state = .loading ↔ shooter.state = .loading := by
  cases state : shooter.state with
  | idle => simp [process_idle state, state]
  | loading => simp [process_loading state, state]
  | shooting =>
      rw [process_shooting state]
      dsimp only
      split <;> simp

theorem process_state_ne_shooting {shooter : Shooter K} (notShooting : shooter.state ≠ .shooting) :
    shooter.process.state ≠ .shooting := by
  cases state : shooter.state with
  | idle => simp [process_idle state, state]
  | loading => simp [process_loading state, state]
  | shooting => exact absurd state notShooting

variable [FloorRing K]

def reset (config : Config K) (shooter : Shooter K) : Shooter K :=
  { shooter with
    state := .idle
    lastState := .idle
    periodMs := config.integer "engine" "period" 0
    shootLevel := 1
    shootPower := max 1 (config.number "shooter" "shoot_power" 0)
    intakePrimaryPower := -1 * max 1 (config.number "shooter" "intake_primary_power" 0)
    intakeSecondaryPower := -1 * max 1 (config.number "shooter" "intake_secondary_power" 0) }

/-- `Shooter::Shooter`: member initialisers, then `reset`.  The times are cut to
whole milliseconds after their products have been rounded.  No voltage has been
sent to a motor yet. -/
def create (config : Config K) : Shooter K :=
  reset config
    { state := .idle
      lastState := .idle
      shootLevel := 1
      warmTimeMs := Config.toInt (Config.double (1000.0 * config.number "shooter" "warmup_time" 0))
      shootTimeMs := Config.toInt (Config.double (1000.0 * config.number "shooter" "shoot_time" 0))
      totalTimeMs := 0
      periodMs := 20
      tick := 0
      delay := 0
      delayTicks := 2
      shootPower := -3.0
      intakePrimaryPower := -6.0
      intakeSecondaryPower := -3.0
      motors := .pair 0 0 }

/-- The calls that the robot program makes on a shooter. -/
inductive Call (K : Type*)
  | intake
  | shoot
  | stop
  | reset (config : Config K)
  | setShootLevel (level : K)
  | process

/-- Perform one call. -/
def perform (shooter : Shooter K) : Call K → Shooter K
  | .intake => shooter.intake
  | .shoot => shooter.shoot
  | .stop => shooter.stop
  | .reset config => shooter.reset config
  | .setShootLevel level => shooter.setShootLevel level
  | .process => shooter.process

end Shooter

end RobotFirmware
