import Mathlib.Data.Sign.Defs
import RobotFirmware.FailSafe

/-!
# What the motors are sent

The two motors of a shooter stage and the two arm motors of the lifter always
have one voltage.  The secondary stage of the shooter feeds a game piece into
the primary one, so it must not push while the primary stage rests or pulls.
No voltage exceeds the powers of the configurations that were read.
-/

namespace RobotFirmware

/-- Both motors of a stage agree, and a primary stage that rests or pulls has
a secondary stage that does the same. -/
structure ShooterMotors.Coordinated {K : Type*} [Zero K] [LinearOrder K]
    (motors : ShooterMotors K) : Prop where
  primary : motors.primaryTop = motors.primaryBottom
  secondary : motors.secondaryTop = motors.secondaryBottom
  feeds : motors.primaryTop ≤ 0 →
    SignType.sign motors.secondaryTop = SignType.sign motors.primaryTop

/-- No motor is sent more than the given voltage, in either direction. -/
def ShooterMotors.WithinVolts {K : Type*} [Lattice K] [AddGroup K] (motors : ShooterMotors K)
    (volts : K) : Prop :=
  |motors.primaryTop| ≤ volts ∧ |motors.primaryBottom| ≤ volts ∧
    |motors.secondaryTop| ≤ volts ∧ |motors.secondaryBottom| ≤ volts

/-- The entries that a reset reads ask for at most the given voltage. -/
structure Config.PowersAtMost {K : Type*} [Zero K] [LE K] (config : Config K) (volts : K) :
    Prop where
  shoot : config.number "shooter" "shoot_power" 0 ≤ volts
  intakePrimary : config.number "shooter" "intake_primary_power" 0 ≤ volts
  intakeSecondary : config.number "shooter" "intake_secondary_power" 0 ≤ volts

namespace Shooter

variable {K : Type*} [Field K] [LinearOrder K]

theorem coordinated_pair {primary secondary : K}
    (feeds : primary ≤ 0 → SignType.sign secondary = SignType.sign primary) :
    (ShooterMotors.pair primary secondary).Coordinated :=
  ⟨rfl, rfl, feeds⟩

/-- The motors are sent something only by `process`. -/
theorem motors_perform [FloorRing K] (shooter : Shooter K) {call : Call K}
    (notProcess : call ≠ .process) : (shooter.perform call).motors = shooter.motors := by
  cases call with
  | process => exact absurd rfl notProcess
  | intake =>
      simp only [perform, intake]
      split <;> rfl
  | shoot =>
      simp only [perform, shoot]
      split <;> rfl
  | _ => rfl

variable [IsStrictOrderedRing K]

section Coordinated

theorem PowersInRange.coordinated_process {shooter : Shooter K} (inRange : shooter.PowersInRange)
    (coordinated : shooter.motors.Coordinated) : shooter.process.motors.Coordinated := by
  have negative : (-1 : K) < 0 := by simp
  cases state : shooter.state with
  | idle =>
      rw [process_idle state]
      exact coordinated_pair fun _ => rfl
  | loading =>
      have primary : shooter.intakePrimaryPower < 0 := inRange.intakePrimary.trans_lt negative
      have secondary : shooter.intakeSecondaryPower < 0 :=
        inRange.intakeSecondary.trans_lt negative
      rw [process_loading state]
      exact coordinated_pair fun _ => by rw [sign_neg primary, sign_neg secondary]
  | shooting =>
      have pushes := not_le.mpr inRange.shootVolts_pos
      rw [process_shooting state]
      simp only [shotMotors]
      split
      · exact coordinated_pair fun pulls => absurd pulls pushes
      · exact ⟨rfl, coordinated.secondary, fun pulls => absurd pulls pushes⟩

variable [FloorRing K]

theorem PowersInRange.coordinated_perform {shooter : Shooter K} (inRange : shooter.PowersInRange)
    (coordinated : shooter.motors.Coordinated) (call : Call K) :
    (shooter.perform call).motors.Coordinated := by
  by_cases isProcess : call = .process
  · rw [isProcess]
    exact inRange.coordinated_process coordinated
  · rwa [motors_perform shooter isProcess]

theorem Reaches.coordinated {config : Config K} {shooter : Shooter K}
    (reaches : Reaches (create config) shooter) : shooter.motors.Coordinated := by
  refine (reaches.invariant (fun shooter => shooter.PowersInRange ∧ shooter.motors.Coordinated)
    ?_ ⟨powersInRange_reset config _, coordinated_pair fun _ => rfl⟩).2
  rintro shooter call ⟨inRange, coordinated⟩
  exact ⟨inRange.perform call, inRange.coordinated_perform coordinated call⟩

end Coordinated

section Voltage

/-- No power of the shooter exceeds the given voltage. -/
structure PowersWithin (shooter : Shooter K) (volts : K) : Prop where
  shoot : |shooter.shootPower| ≤ volts
  intakePrimary : |shooter.intakePrimaryPower| ≤ volts
  intakeSecondary : |shooter.intakeSecondaryPower| ≤ volts

theorem PowersWithin.shootVolts {shooter : Shooter K} {volts : K}
    (within : shooter.PowersWithin volts) : |shooter.shootVolts| ≤ volts := by
  have level : |shooter.level| ≤ 1 := by
    have lowest : (0 : K) ≤ 0.2 := by positivity
    have lowestLeOne : (0.2 : K) ≤ 1 := by norm_num
    rw [level, abs_of_nonneg (lowest.trans (le_max_left _ _))]
    exact max_le lowestLeOne (min_le_left _ _)
  calc |shooter.shootPower * shooter.level|
      = |shooter.shootPower| * |shooter.level| := abs_mul _ _
    _ ≤ |shooter.shootPower| * 1 := by gcongr
    _ ≤ volts := by simpa using within.shoot

theorem PowersWithin.process {shooter : Shooter K} {volts : K}
    (within : shooter.PowersWithin volts) (sent : shooter.motors.WithinVolts volts) :
    shooter.process.motors.WithinVolts volts := by
  have off : |(0 : K)| ≤ volts := by simpa using (abs_nonneg _).trans within.shoot
  cases state : shooter.state with
  | idle =>
      rw [process_idle state]
      exact ⟨off, off, off, off⟩
  | loading =>
      rw [process_loading state]
      exact ⟨within.intakePrimary, within.intakePrimary, within.intakeSecondary,
        within.intakeSecondary⟩
  | shooting =>
      rw [process_shooting state]
      simp only [shotMotors]
      split
      · exact ⟨within.shootVolts, within.shootVolts, within.shootVolts, within.shootVolts⟩
      · exact ⟨within.shootVolts, within.shootVolts, sent.2.2⟩

variable [FloorRing K]

theorem powersWithin_reset {config : Config K} {volts : K} (atMost : config.PowersAtMost volts)
    (shooter : Shooter K) : (shooter.reset config).PowersWithin (max 1 volts) := by
  have power {entry : K} (small : entry ≤ volts) : |max 1 entry| ≤ max 1 volts := by
    rw [abs_of_pos (zero_lt_one.trans_le (le_max_left _ _))]
    exact max_le_max_left 1 small
  have intake {entry : K} (small : entry ≤ volts) : |-1 * max 1 entry| ≤ max 1 volts := by
    simpa using power small
  exact ⟨power atMost.shoot, intake atMost.intakePrimary, intake atMost.intakeSecondary⟩

/-- A reset reads powers of at most the given voltage. -/
def Call.ResetsAtMost (volts : K) : Call K → Prop
  | .reset config => config.PowersAtMost volts
  | _ => True

theorem PowersWithin.perform {shooter : Shooter K} {volts : K}
    (within : shooter.PowersWithin (max 1 volts)) {call : Call K} (atMost : call.ResetsAtMost volts) :
    (shooter.perform call).PowersWithin (max 1 volts) := by
  cases call with
  | reset config => exact powersWithin_reset atMost shooter
  | intake =>
      simp only [Shooter.perform, Shooter.intake]
      split <;> exact ⟨within.shoot, within.intakePrimary, within.intakeSecondary⟩
  | shoot =>
      simp only [Shooter.perform, Shooter.shoot]
      split <;> exact ⟨within.shoot, within.intakePrimary, within.intakeSecondary⟩
  | process =>
      obtain ⟨_, _, _, _, _, processed⟩ := shooter.process_frame
      rw [Shooter.perform, processed]
      exact ⟨within.shoot, within.intakePrimary, within.intakeSecondary⟩
  | stop => exact ⟨within.shoot, within.intakePrimary, within.intakeSecondary⟩
  | setShootLevel level => exact ⟨within.shoot, within.intakePrimary, within.intakeSecondary⟩

/-- **Voltage bound.** Whatever levels are asked for, and in whatever order the
shooter is used and reset, no motor is ever sent more than the greatest power
configured so far, or 1 V if all of them are below. -/
theorem withinVolts_of_calls (config : Config K) (calls : List (Call K)) (volts : K)
    (created : config.PowersAtMost volts) (resets : ∀ call ∈ calls, call.ResetsAtMost volts) :
    (calls.foldl perform (create config)).motors.WithinVolts (max 1 volts) := by
  have off : |(0 : K)| ≤ max 1 volts := by simp
  have unsent : (create config).motors.WithinVolts (max 1 volts) := ⟨off, off, off, off⟩
  refine (Runs.invariant_of_steps perform
    (fun shooter => shooter.PowersWithin (max 1 volts) ∧
      shooter.motors.WithinVolts (max 1 volts))
    (fun _ call => call.ResetsAtMost volts) ?_
    ⟨powersWithin_reset created _, unsent⟩ ?_).1.2
  · rintro shooter call ⟨within, sent⟩ atMost
    refine ⟨within.perform atMost, ?_⟩
    by_cases isProcess : call = .process
    · rw [isProcess]
      exact within.process sent
    · rwa [motors_perform shooter isProcess]
  · intro taken member
    exact resets taken.2 (Runs.mem_of_mem_steps member)

/-- A shot on the bench at a tenth of the power, after a reset. -/
theorem withinVolts_of_calls_bench :
    ([.setShootLevel 0.1, .shoot, .process, .reset .bench].foldl perform
      (create Config.bench)).motors.WithinVolts (max 1 (1 : Rat)) := by
  have atMost : Config.bench.PowersAtMost 1 := by constructor <;> decide +kernel
  refine withinVolts_of_calls .bench _ 1 atMost ?_
  simp [Call.ResetsAtMost, atMost]

end Voltage

end Shooter

/-- The voltage for both arms is one of the three that the lifter uses. -/
def Lifter.Moves {K : Type*} [Field K] (lifter : Lifter K) : Prop :=
  lifter = .setVoltage 0 ∨ lifter = .setVoltage (0.3 * 12.0) ∨
    lifter = .setVoltage (0.3 * -12.0)

namespace TimedRobot

variable {K τ π : Type*} [Field K] [LinearOrder K] [FloorRing K]

theorem lifter_of_reachable {platform : Platform K τ π} {system : TimedRobot K τ}
    (reachable : Reachable platform system) : system.robot.lifter.Moves := by
  obtain ⟨config, now, reaches⟩ := actuators_of_reachable reachable
  refine reaches.invariant (fun actuators => actuators.lifter.Moves) ?_ (.inl rfl)
  intro actuators call _ moves
  cases call with
  | bound call =>
      cases call with
      | moveUp => exact .inr (.inl rfl)
      | moveDown => exact .inr (.inr rfl)
      | stopLifter => exact .inl rfl
      | _ => exact moves
  | drive xSpeed rot => exact moves
  | shooter call => exact moves

/-- **Motor outputs.** In every state that the robot program reaches, with any
bot program in any mode, the two motors of each shooter stage have the same
voltage, the secondary stage rests or pulls together with a primary stage that
does, so that nothing is fed into a primary stage which does not push, and both
arms of the lifter have the same one of three voltages. -/
theorem motor_outputs [IsStrictOrderedRing K] (platform : Platform K τ π)
    (system : Reached platform) :
    system.val.robot.shooter.motors.Coordinated ∧ system.val.robot.lifter.Moves := by
  obtain ⟨config, reaches⟩ := shooter_of_reachable system.property
  exact ⟨reaches.coordinated, lifter_of_reachable system.property⟩

/-- A tick of Teleop that raises the arms and begins a shot. -/
theorem motor_outputs_bench :
    ∃ last, run Platform.bench (boot .bench .bench 0 (.bench (.boolean true)))
        [.teleopInit .bench, .teleopPeriodic (.bench true) ⟨[.moveUp, .shoot 0.6], none⟩] =
          .ok last ∧
      last.robot.shooter.motors.Coordinated ∧ last.robot.lifter.Moves := by
  obtain ⟨last, ran⟩ : ∃ last, run Platform.bench (boot .bench .bench 0 (.bench (.boolean true)))
      [.teleopInit .bench, .teleopPeriodic (.bench true) ⟨[.moveUp, .shoot 0.6], none⟩] =
    .ok last := ⟨_, rfl⟩
  exact ⟨last, ran, motor_outputs .bench ⟨last, _, _, _, _, ran⟩⟩

end TimedRobot

end RobotFirmware
