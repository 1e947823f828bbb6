import Mathlib.Tactic.Positivity
import RobotFirmware.ActuatorCalls
import RobotFirmware.ShooterReference

/-!
# Loss of control

A tick of a Teleop or Test session without the controller, or with an error
recorded, stops the drivetrain and processes the shooter.  It sends nothing to
the lifter and does not stop an intake, so both go on as they were.
-/

namespace RobotFirmware

namespace Shooter

variable {K : Type*} [Field K] [LinearOrder K]

/-- The powers that a reset can set: shots push out and the intake pulls in. -/
structure PowersInRange (shooter : Shooter K) : Prop where
  shoot : 1 ≤ shooter.shootPower
  intakePrimary : shooter.intakePrimaryPower ≤ -1
  intakeSecondary : shooter.intakeSecondaryPower ≤ -1

/-- The voltage is one of the two that the intake uses. -/
def IsIntakeVoltage (shooter : Shooter K) (volts : K) : Prop :=
  volts = shooter.intakePrimaryPower ∨ volts = shooter.intakeSecondaryPower

/-- The shooter is loading, or some motor was last sent an intake voltage. -/
def RunsIntake (shooter : Shooter K) : Prop :=
  shooter.state = .loading ∨ shooter.IsIntakeVoltage shooter.motors.primaryTop ∨
    shooter.IsIntakeVoltage shooter.motors.primaryBottom ∨
      shooter.IsIntakeVoltage shooter.motors.secondaryTop ∨
        shooter.IsIntakeVoltage shooter.motors.secondaryBottom

/-- The next `process` call leaves the secondary motors to what they were sent
before. -/
def WarmsUp (shooter : Shooter K) : Prop :=
  shooter.state = .shooting ∧ shooter.delay < shooter.delayTicks

theorem PowersInRange.not_isIntakeVoltage [IsStrictOrderedRing K] {shooter : Shooter K}
    (inRange : shooter.PowersInRange) {volts : K} (nonnegative : 0 ≤ volts) :
    ¬ shooter.IsIntakeVoltage volts := by
  have primary := inRange.intakePrimary
  have secondary := inRange.intakeSecondary
  have negative : (-1 : K) < 0 := by simp
  rintro (rfl | rfl)
  · exact absurd (nonnegative.trans primary) (not_le.mpr negative)
  · exact absurd (nonnegative.trans secondary) (not_le.mpr negative)

theorem PowersInRange.shootVolts_pos [IsStrictOrderedRing K] {shooter : Shooter K}
    (inRange : shooter.PowersInRange) : 0 < shooter.shootVolts := by
  have lowest : (0 : K) < 0.2 := by positivity
  have level : 0 < shooter.level := lowest.trans_le (le_max_left _ _)
  exact mul_pos (zero_lt_one.trans_le inRange.shoot) level

/-- `process` runs the intake exactly when the shooter is loading, except that
a shot which warms up may still find the secondary motors running. -/
theorem PowersInRange.runsIntake_process_iff [IsStrictOrderedRing K] {shooter : Shooter K}
    (inRange : shooter.PowersInRange)
    (fromRest : shooter.WarmsUp → shooter.SecondaryAtRest) :
    shooter.process.RunsIntake ↔ shooter.state = .loading := by
  have atRest := inRange.not_isIntakeVoltage le_rfl
  have firing := inRange.not_isIntakeVoltage inRange.shootVolts_pos.le
  cases state : shooter.state with
  | loading =>
      rw [process_loading state]
      exact iff_of_true (.inl state) rfl
  | idle =>
      rw [process_idle state]
      refine iff_of_false ?_ (by simp)
      rintro (loading | motor | motor | motor | motor)
      · simp [state] at loading
      all_goals exact atRest motor
  | shooting =>
      refine iff_of_false ?_ (by simp)
      rintro (loading | motors)
      · rw [process_state_eq_loading_iff, state] at loading
        cases loading
      · rw [process_shooting state] at motors
        by_cases warming : shooter.delay < shooter.delayTicks
        · obtain ⟨top, bottom⟩ := fromRest ⟨state, warming⟩
          simp only [shotMotors, if_neg (not_le.mpr warming), top, bottom] at motors
          rcases motors with motor | motor | motor | motor
          · exact firing motor
          · exact firing motor
          · exact atRest motor
          · exact atRest motor
        · simp only [shotMotors, if_pos (not_lt.mp warming), ShooterMotors.pair] at motors
          rcases motors with motor | motor | motor | motor <;> exact firing motor

variable [FloorRing K]

theorem powersInRange_reset [IsStrictOrderedRing K] (config : Config K) (shooter : Shooter K) :
    (shooter.reset config).PowersInRange := by
  have powers (power : K) : -1 * max 1 power ≤ -1 := by simp
  exact ⟨le_max_left _ _, powers _, powers _⟩

theorem PowersInRange.perform [IsStrictOrderedRing K] {shooter : Shooter K}
    (inRange : shooter.PowersInRange) (call : Call K) : (shooter.perform call).PowersInRange := by
  cases call with
  | reset config => exact powersInRange_reset config shooter
  | intake =>
      simp only [Shooter.perform, intake]
      split <;> exact ⟨inRange.shoot, inRange.intakePrimary, inRange.intakeSecondary⟩
  | shoot =>
      simp only [Shooter.perform, Shooter.shoot]
      split <;> exact ⟨inRange.shoot, inRange.intakePrimary, inRange.intakeSecondary⟩
  | process =>
      obtain ⟨_, _, _, _, _, processed⟩ := shooter.process_frame
      rw [Shooter.perform, processed]
      exact ⟨inRange.shoot, inRange.intakePrimary, inRange.intakeSecondary⟩
  | stop => exact ⟨inRange.shoot, inRange.intakePrimary, inRange.intakeSecondary⟩
  | setShootLevel level => exact ⟨inRange.shoot, inRange.intakePrimary, inRange.intakeSecondary⟩

theorem powersInRange_of_calls [IsStrictOrderedRing K] (config : Config K)
    (calls : List (Call K)) : (calls.foldl perform (create config)).PowersInRange := by
  have reaches : Reaches (create config) (calls.foldl perform (create config)) := ⟨calls, rfl⟩
  exact reaches.invariant PowersInRange (fun _ call inRange => inRange.perform call)
    (powersInRange_reset config _)

end Shooter

namespace TimedRobot

variable {K τ π : Type*} [Field K] [LinearOrder K] [FloorRing K]

theorem powersInRange_of_reachable [IsStrictOrderedRing K] {platform : Platform K τ π}
    {system : TimedRobot K τ} (reachable : Reachable platform system) :
    system.robot.shooter.PowersInRange := by
  obtain ⟨config, reaches⟩ := shooter_of_reachable reachable
  exact reaches.invariant Shooter.PowersInRange (fun _ call inRange => inRange.perform call)
    (Shooter.powersInRange_reset config _)

/-- A `Periodic` of the Teleop or of the Test mode. -/
def IsLuaTick (event : Event K τ π) (pad : GamepadReading K) : Prop :=
  ∃ outcome, event = .teleopPeriodic pad outcome ∨ event = .testPeriodic pad outcome

/-- **Loss of control.** In every reachable state, a Teleop or Test tick without
the controller or with an error recorded returns with the drivetrain stopped
and the lifter as it was.  The shooter is loading afterwards if and only if it
was before, and apart from a shot that warms up with its secondary motors
running, the intake runs afterwards exactly then. -/
theorem loss_of_control [IsStrictOrderedRing K] (platform : Platform K τ π)
    (system : Reached platform) (event : Event K τ π) (pad : GamepadReading K)
    (ticks : IsLuaTick event pad) (inMode : (schedule system.val.mode event.slot).isSome)
    (lost : system.val.robot.LosesControl pad) :
    ∃ after, system.val.step platform event = .ok after ∧
      after.robot.drivetrain.setPoint = ⟨0, 0⟩ ∧
        after.robot.lifter = system.val.robot.lifter ∧
          (after.robot.shooter.state = .loading ↔ system.val.robot.shooter.state = .loading) ∧
            ((system.val.robot.shooter.WarmsUp → system.val.robot.shooter.SecondaryAtRest) →
              (after.robot.shooter.RunsIntake ↔
                system.val.robot.shooter.state = .loading)) := by
  obtain ⟨mode, scheduled⟩ := Option.isSome_iff_exists.mp inMode
  have inRange := powersInRange_of_reachable system.property
  have performed : system.val.robot.perform platform event =
      .ok { system.val.robot with
        drivetrain := system.val.robot.drivetrain.drive 0 0
        shooter := system.val.robot.shooter.process
        gamepadConnected := pad.connected } := by
    obtain ⟨outcome, rfl | rfl⟩ := ticks <;>
      exact RobotMain.luaPeriodic_of_losesControl platform lost outcome
  refine ⟨⟨_, mode⟩, step_ok_iff.mpr ⟨scheduled, performed⟩, rfl, rfl, ?_, ?_⟩
  · exact Shooter.process_state_eq_loading_iff system.val.robot.shooter
  · exact inRange.runsIntake_process_iff

/-- Arms going up and an intake running, when the controller is unplugged. -/
theorem loss_of_control_leaves_lifter_and_intake_running :
    ¬ ∀ (platform : Platform Rat Unit Unit) (system : Reached platform)
        (event : Event Rat Unit Unit) (pad : GamepadReading Rat) (after : TimedRobot Rat Unit),
        IsLuaTick event pad → system.val.robot.LosesControl pad →
          system.val.step platform event = .ok after →
            after.robot.drivetrain.setPoint = ⟨0, 0⟩ ∧ after.robot.lifter = .setVoltage 0 ∧
              ¬ after.robot.shooter.RunsIntake := by
  intro neutral
  obtain ⟨system, after, ran, taken, lifter⟩ : ∃ system after,
      run Platform.bench (boot .bench .bench 0 (.bench (.boolean true)))
        [.teleopInit .bench, .teleopPeriodic (.bench true) ⟨[.moveUp, .intake], none⟩] =
          .ok system ∧
        step Platform.bench system (.teleopPeriodic (.bench false) ⟨[], none⟩) = .ok after ∧
          after.robot.lifter ≠ .setVoltage 0 :=
    ⟨_, _, rfl, rfl, by decide +kernel⟩
  exact lifter (neutral .bench ⟨system, .bench, 0, .bench (.boolean true), _, ran⟩ _ (.bench false)
    after ⟨⟨[], none⟩, .inl rfl⟩ (.inl rfl) taken).2.1

/-- A robot that drives, moves its arms up and runs its intake, in a tick without
the controller: only the drivetrain is stopped. -/
theorem loss_of_control_with_arms_up :
    ∃ system after : TimedRobot Rat Unit,
      run Platform.bench (boot .bench .bench 0 (.bench (.boolean true)))
          [.teleopInit .bench,
            .teleopPeriodic (.bench true) ⟨[.drive 1 1 0, .moveUp, .intake], none⟩] =
        .ok system ∧
      step Platform.bench system (.teleopPeriodic (.bench false) ⟨[], none⟩) = .ok after ∧
        system.robot.drivetrain.setPoint ≠ ⟨0, 0⟩ ∧ system.robot.lifter ≠ .setVoltage 0 ∧
          after.robot.drivetrain.setPoint = ⟨0, 0⟩ ∧
            after.robot.lifter = system.robot.lifter ∧
              after.robot.shooter.state = .loading ∧ after.robot.shooter.RunsIntake := by
  obtain ⟨system, ran, inTeleop, drives, lifts, loads⟩ : ∃ system,
      run Platform.bench (boot .bench .bench 0 (.bench (.boolean true)))
          [.teleopInit .bench,
            .teleopPeriodic (.bench true) ⟨[.drive 1 1 0, .moveUp, .intake], none⟩] =
        .ok system ∧ system.mode = some .teleop ∧ system.robot.drivetrain.setPoint ≠ ⟨0, 0⟩ ∧
          system.robot.lifter ≠ .setVoltage 0 ∧ system.robot.shooter.state = .loading :=
    ⟨_, rfl, rfl, by decide +kernel, by decide +kernel, by decide +kernel⟩
  obtain ⟨after, taken, stopped, lifter, loading, running⟩ :=
    loss_of_control .bench ⟨system, .bench, 0, .bench (.boolean true), _, ran⟩
      (.teleopPeriodic (.bench false) ⟨[], none⟩) (.bench false) ⟨⟨[], none⟩, .inl rfl⟩
      (by simp [inTeleop, schedule, Event.slot]) (.inl rfl)
  have notWarming : system.robot.shooter.WarmsUp → system.robot.shooter.SecondaryAtRest := by
    rintro ⟨shooting, -⟩
    simp [loads] at shooting
  exact ⟨system, after, ran, taken, drives, lifts, stopped, lifter, loading.mpr loads,
    (running notWarming).mpr loads⟩

end TimedRobot

end RobotFirmware
