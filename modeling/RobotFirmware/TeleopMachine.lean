import RobotFirmware.HeldSticks
import RobotFirmware.MotorOutputs
import RobotFirmware.TeleopShooter

/-!
# The Teleop mode as the driver sees it

A Teleop session involves the framework, the engine, the parameters, the Lua
program, its bindings and the three subsystems.  What the driver sees of all
this is a small machine: a gear, arms that go up before they go down, a shooter
with one activity at a time, and two values that follow the sticks.
-/

namespace RobotFirmware

theorem Parameters.leftStickY_lt : leftStickY < maxAxes := by decide

theorem Parameters.rightStickX_lt : rightStickX < maxAxes := by decide

/-- What a session takes from the robot and its configuration. -/
structure TeleopSettings (K : Type*) where
  maxSpeed : K
  maxAngularSpeed : K
  /-- From the stick to the share of the speed. -/
  skewMap : K → K
  /-- From the stick to the share of the rotation. -/
  rotationGain : K
  shooter : ShooterSettings K

/-- The machine.  `speed` and `rotation` have followed the sticks up to the time
`since`. -/
structure TeleopMachine (K : Type*) where
  lowGear : Bool
  hasGoneUp : Bool
  arms : K
  shooter : ShooterMachine K
  speed : K
  rotation : K
  since : K
  setPoint : SetPoint K

namespace TeleopMachine

open SlewRate

variable {K : Type*} [Field K] [LinearOrder K]

/-- One tick.  Without the controller the robot stops, and everything but the
shooter waits. -/
def advance (settings : TeleopSettings K) (machine : TeleopMachine K) (input : TeleopInput K) :
    TeleopMachine K :=
  let pad := input.pad
  let machine :=
    { machine with
      shooter := machine.shooter.advance settings.shooter pad.shooterRequest
      setPoint := ⟨0, 0⟩ }
  if pad.connected then
    let lowGear := pad.B || !pad.X && machine.lowGear
    let speedStick := Parameters.filtered pad ⟨_, Parameters.leftStickY_lt⟩
    let rotationStick := Parameters.filtered pad ⟨_, Parameters.rightStickX_lt⟩
    let asked := speedStick * if lowGear then 0.25 else 1
    let reach := 3.0 * (input.now - machine.since)
    let speed := approach machine.speed (settings.skewMap (max (-1) (min 1 asked))) reach
    let rotation := approach machine.rotation (rotationStick * settings.rotationGain) reach
    { machine with
      lowGear := lowGear
      hasGoneUp := pad.Y || machine.hasGoneUp
      arms :=
        if pad.Y then 0.3 * 12.0
        else if pad.A then (if machine.hasGoneUp then 0.3 * -12.0 else machine.arms)
        else 0
      speed := speed
      rotation := rotation
      since := input.now
      setPoint := ⟨-speed * settings.maxSpeed, -rotation * settings.maxAngularSpeed⟩ }
  else
    machine

end TeleopMachine

namespace RobotMain

variable {K τ : Type*} [Field K] [LinearOrder K] [FloorRing K]

/-- The settings of a session that begins now. -/
def teleopSettings (robot : RobotMain K τ) (config : Config K) : TeleopSettings K where
  maxSpeed := robot.drivetrain.maxSpeed
  maxAngularSpeed := robot.drivetrain.maxAngularSpeed
  skewMap := skewed robot.drivetrain.speedRange.expLog robot.drivetrain.speedRange.skew
  rotationGain :=
    if robot.drivetrain.isReal then
      -robot.drivetrain.rotationThrottle
    else
      robot.drivetrain.rotationThrottle
  shooter := (robot.shooter.reset config).settings

/-- The machine at the begin of a session: the gear is high, the arms have not
gone up and the shooter is idle, but the motors and the limiters are as they
were left. -/
def teleopMachine (robot : RobotMain K τ) : TeleopMachine K where
  lowGear := false
  hasGoneUp := false
  arms := robot.lifter.leftArm
  shooter := ⟨.idle, 1, robot.shooter.motors⟩
  speed := robot.drivetrain.speedLimiter.prevVal
  rotation := robot.drivetrain.rotLimiter.prevVal
  since := robot.drivetrain.speedLimiter.prevTime
  setPoint := robot.drivetrain.setPoint

end RobotMain

namespace TeleopSession

open Runs SlewRate Drivetrain ShooterMachine

variable {K τ π : Type*} [Field K] [LinearOrder K]

/-- The drivetrain has the settings of the machine, and its limiters hold what
the machine does. -/
structure DrivesLike (settings : TeleopSettings K) (machine : TeleopMachine K)
    (drivetrain : Drivetrain K) : Prop where
  ready : ∃ config isReal expLog, ReadyAt config isReal expLog machine.since drivetrain ∧
    settings.skewMap = skewed expLog (config.number "gamepad" "skew_factor" 1)
  maxSpeed_eq : drivetrain.maxSpeed = settings.maxSpeed
  maxAngularSpeed_eq : drivetrain.maxAngularSpeed = settings.maxAngularSpeed
  rotationTarget_eq : ∀ rotation,
    drivetrain.rotationTarget rotation = rotation * settings.rotationGain
  speedLimiter_eq : drivetrain.speedLimiter = ⟨3.0, machine.speed, machine.since⟩
  rotLimiter_eq : drivetrain.rotLimiter = ⟨3.0, machine.rotation, machine.since⟩
  setPoint_eq : drivetrain.setPoint = machine.setPoint

/-- The session is in the situation that the machine describes. -/
structure Follows (settings : TeleopSettings K) (machine : TeleopMachine K)
    (session : TeleopSession K τ) : Prop where
  lowGear_eq : session.script.lowGear = machine.lowGear
  hasGoneUp_eq : session.script.hasGoneUp = machine.hasGoneUp
  lifter_eq : session.robot.lifter = .setVoltage machine.arms
  shooter : Tracks settings.shooter machine.shooter session.robot.shooter
  drivetrain : DrivesLike settings machine session.robot.drivetrain

variable [FloorRing K]

/-- Both limiters have been asked at the same times. -/
theorem limiters_in_step_of_reachable {platform : Platform K τ π} {system : TimedRobot K τ}
    (reachable : TimedRobot.Reachable platform system) :
    system.robot.drivetrain.rotLimiter.prevTime =
      system.robot.drivetrain.speedLimiter.prevTime := by
  obtain ⟨config, now, reaches⟩ := TimedRobot.actuators_of_reachable reachable
  refine reaches.invariant (fun actuators =>
    actuators.drivetrain.rotLimiter.prevTime = actuators.drivetrain.speedLimiter.prevTime) ?_ rfl
  intro actuators call _ same
  cases call with
  | bound call =>
      cases call with
      | drive now speed rot => rfl
      | _ => exact same
  | drive xSpeed rot => exact same
  | shooter call => exact same

/-- At the begin of a session the machine is what the robot has been left as. -/
theorem follows_begin (platform : Platform K τ π) {system : TimedRobot K τ}
    (reachable : TimedRobot.Reachable platform system) (config : Config K) :
    Follows (system.robot.teleopSettings config) system.robot.teleopMachine
      (begin system.robot config) := by
  obtain ⟨-, scriptEq, lifterEq, -⟩ := begin_spec system.robot config
  obtain ⟨built, settingsEq⟩ := TimedRobot.drivetrain_settings_of_reachable reachable
  have ready : ReadyAt built platform.isReal platform.expLog
      system.robot.drivetrain.speedLimiter.prevTime system.robot.drivetrain :=
    ⟨settingsEq, le_rfl, (limiters_in_step_of_reachable reachable).le⟩
  have arms : system.robot.lifter = .setVoltage system.robot.lifter.leftArm := by
    rcases TimedRobot.lifter_of_reachable reachable with volts | volts | volts <;>
      rw [volts] <;> rfl
  have speedRate : system.robot.drivetrain.speedLimiter.rateLimit = 3.0 :=
    congrArg Settings.speedRate settingsEq
  have rotRate : system.robot.drivetrain.rotLimiter.rateLimit = 3.0 :=
    congrArg Settings.rotRate settingsEq
  refine ⟨by rw [scriptEq]; rfl, by rw [scriptEq]; rfl, lifterEq.trans arms,
    tracks_begin system.robot config, ?_⟩
  rw [drivetrain_begin]
  refine ⟨⟨built, platform.isReal, platform.expLog, ready, ?_⟩, rfl, rfl, ?_, ?_, ?_, rfl⟩
  · simp only [RobotMain.teleopSettings, ready.speedRange_eq, stickRange]
  · intro rotation
    simp only [rotationTarget, RobotMain.teleopSettings]
    split
    · rw [mul_neg_one, mul_neg]
    · rfl
  · rw [RobotMain.teleopMachine, ← speedRate]
  · rw [RobotMain.teleopMachine, ← rotRate, ← limiters_in_step_of_reachable reachable]

variable [IsStrictOrderedRing K] {settings : TeleopSettings K}
  {machine : TeleopMachine K} {session : TeleopSession K τ}

/-- Driving with the sticks takes the limiters to where the machine goes. -/
theorem DrivesLike.driveNormalized {drivetrain : Drivetrain K}
    (drives : DrivesLike settings machine drivetrain) {now : K} (forward : machine.since ≤ now)
    (speed rotation : K) :
    let reach := 3.0 * (now - machine.since)
    let limitedSpeed := approach machine.speed (settings.skewMap (max (-1) (min 1 speed))) reach
    let limitedRot := approach machine.rotation (rotation * settings.rotationGain) reach
    drivetrain.driveNormalized now speed rotation =
      { drivetrain with
        speedLimiter := ⟨3.0, limitedSpeed, now⟩
        rotLimiter := ⟨3.0, limitedRot, now⟩
        setPoint :=
          ⟨-limitedSpeed * settings.maxSpeed, -limitedRot * settings.maxAngularSpeed⟩ } := by
  obtain ⟨config, isReal, expLog, ready, skewMap⟩ := drives.ready
  rw [(ready.mono forward).driveNormalized_eq]
  simp only [drives.speedLimiter_eq, drives.rotLimiter_eq, drives.rotationTarget_eq,
    drives.maxSpeed_eq, drives.maxAngularSpeed_eq, skewMap, speedTarget_eq ready.speedRange_eq]

theorem follows_tick (platform : Platform K τ π) (follows : Follows settings machine session)
    {input : TeleopInput K} (forward : machine.since ≤ input.now) :
    Follows settings (machine.advance settings input) (session.tick platform input) := by
  have shooter := tracks_tick platform follows.shooter input
  cases connected : input.pad.connected with
  | false =>
      have drives := follows.drivetrain
      obtain ⟨-, scriptEq, -⟩ := session.tick_spec platform input
      rw [respond, if_neg (by simp [connected])] at scriptEq
      simp only [TeleopMachine.advance, connected, Bool.false_eq_true, if_false]
      refine ⟨scriptEq ▸ follows.lowGear_eq, scriptEq ▸ follows.hasGoneUp_eq, ?_, shooter, ?_⟩
      · rw [session.lifter_tick_of_disconnected platform connected, follows.lifter_eq]
      · rw [session.drivetrain_tick_of_disconnected platform connected]
        obtain ⟨config, isReal, expLog, ready, skewMap⟩ := drives.ready
        exact ⟨⟨config, isReal, expLog, ⟨ready.settings_eq, ready.speedTime, ready.rotTime⟩,
          skewMap⟩, drives.maxSpeed_eq, drives.maxAngularSpeed_eq, drives.rotationTarget_eq,
          drives.speedLimiter_eq, drives.rotLimiter_eq, rfl⟩
  | true =>
      have drives := follows.drivetrain
      have gear : (session.script.updateSpeed input.pad).lowGear =
          (input.pad.B || !input.pad.X && machine.lowGear) := by
        rw [TeleopScript.lowGear_updateSpeed, follows.lowGear_eq]
        cases input.pad.B <;> cases input.pad.X <;> rfl
      obtain ⟨-, scriptEq, -⟩ := session.tick_spec platform input
      rw [respond, if_pos connected] at scriptEq
      have goneUp := session.hasGoneUp_tick platform input
      simp only [TeleopMachine.advance, connected, if_true]
      refine ⟨?_, ?_, ?_, shooter, ?_⟩
      · rw [scriptEq, TeleopScript.lowGear_teleopRun, gear]
      · rw [goneUp, connected, Bool.true_and, follows.hasGoneUp_eq]
      · rw [session.lifter_tick_of_connected platform connected, follows.lifter_eq,
          follows.hasGoneUp_eq]
        repeat' split
        all_goals rfl
      · have moved := drives.driveNormalized forward (session.driveSpeed input)
          (session.driveRotation input)
        obtain ⟨config, isReal, expLog, ready, skewMap⟩ := drives.ready
        rw [session.drivetrain_tick_of_connected platform connected, moved, driveSpeed_eq, gear,
          driveRotation_eq]
        have settingsEq := (settings_driveNormalized session.robot.drivetrain input.now
          (session.driveSpeed input) (session.driveRotation input)).trans ready.settings_eq
        rw [moved, driveSpeed_eq, gear, driveRotation_eq] at settingsEq
        exact ⟨⟨config, isReal, expLog, ⟨settingsEq, le_rfl, le_rfl⟩, skewMap⟩, drives.maxSpeed_eq,
          drives.maxAngularSpeed_eq, drives.rotationTarget_eq, rfl, rfl, rfl⟩

theorem follows_foldl_tick (platform : Platform K τ π) (follows : Follows settings machine session)
    {inputs : List (TeleopInput K)}
    (ordered : (machine.since :: inputs.map TeleopInput.now).Pairwise (· ≤ ·)) :
    Follows settings (inputs.foldl (TeleopMachine.advance settings) machine)
      (inputs.foldl (tick platform) session) := by
  induction inputs generalizing session machine with
  | nil => exact follows
  | cons input rest ih =>
      obtain ⟨fromSince, ordered⟩ := List.pairwise_cons.mp ordered
      obtain ⟨fromNow, restOrdered⟩ := List.pairwise_cons.mp ordered
      have since : (machine.advance settings input).since =
          if input.pad.connected then input.now else machine.since := by
        rw [TeleopMachine.advance]
        split <;> rfl
      refine ih (follows_tick platform follows (fromSince input.now (by simp))) ?_
      refine List.pairwise_cons.mpr ⟨fun time member => ?_, restOrdered⟩
      rw [since]
      split
      · exact fromNow time member
      · exact fromSince time (List.mem_cons_of_mem _ member)

/-- **The Teleop mode refines the machine.** From every state that the robot
program reaches, with any bot programs before, a Teleop session with `teleop.bot`
runs through whatever its inputs are, as long as its clock does not go back, and
after every tick it is in the situation of the machine that has read the same
inputs: the set point of the drivetrain, the voltage of the arms, the voltages and
the state of the shooter, its counters, the variables of the program and what
the limiters hold are those of the machine. -/
theorem teleop_refines_machine (platform : Platform K τ π) (system : TimedRobot.Reached platform)
    (config : Config K) (inputs : List (TeleopInput K))
    (ordered : (system.val.robot.drivetrain.speedLimiter.prevTime ::
      inputs.map TeleopInput.now).Pairwise (· ≤ ·)) :
    let robot := system.val.robot
    let settings := robot.teleopSettings config
    let session := inputs.foldl (tick platform) (begin robot config)
    TimedRobot.run platform ⟨robot, none⟩
        (.teleopInit (TeleopScript.sessionStart config) ::
          (begin robot config).periodicEvents platform inputs) =
        .ok ⟨session.robot, some .teleop⟩ ∧
      Follows settings (inputs.foldl (TeleopMachine.advance settings) robot.teleopMachine)
        session := by
  intro robot settings session
  refine ⟨?_, follows_foldl_tick platform (follows_begin platform system.property config) ordered⟩
  refine Runs.foldlM_cons_ok.mpr ⟨⟨(begin robot config).robot, some .teleop⟩, ?_, ?_⟩
  · exact TimedRobot.step_ok_iff.mpr ⟨rfl, (begin_spec robot config).1⟩
  · exact run_periodicEvents platform _ inputs

/-- Two ticks of the first session on the bench. -/
theorem teleop_refines_machine_bench :
    ∃ system : TimedRobot.Reached Platform.bench,
      let robot := system.val.robot
      let inputs := [stickInput true 1, TeleopInput.mk (.bench false) 2]
      let settings := robot.teleopSettings Config.bench
      let session := inputs.foldl (tick .bench) (begin robot .bench)
      TimedRobot.run .bench ⟨robot, none⟩
          (.teleopInit (TeleopScript.sessionStart .bench) ::
            (begin robot .bench).periodicEvents .bench inputs) =
          .ok ⟨session.robot, some .teleop⟩ ∧
        Follows settings (inputs.foldl (TeleopMachine.advance settings) robot.teleopMachine)
          session :=
  ⟨⟨.boot .bench .bench 0 (.bench (.boolean true)), .bench, 0, .bench (.boolean true), [], rfl⟩,
    teleop_refines_machine .bench _ .bench [stickInput true 1, ⟨.bench false, 2⟩]
      (by decide +kernel)⟩

end TeleopSession

end RobotFirmware
