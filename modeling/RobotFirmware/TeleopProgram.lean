import RobotFirmware.LuaTick
import RobotFirmware.TimedRobot

/-!
# The Teleop program

`teleop.bot` is the Lua program of the Teleop mode.  Its functions read the
gamepad, the parameters and the shooter, and act through the bindings.  The
program keeps its own variables between ticks, so a Teleop session is the
robot together with the program that was loaded for it.
-/

namespace RobotFirmware

namespace GamepadReading

variable {K : Type*} (pad : GamepadReading K)

/-! The functions of `gamepad.lua`. -/

def A : Bool :=
  pad.rawButton (Parameters.buttonA + 1)

def B : Bool :=
  pad.rawButton (Parameters.buttonB + 1)

def X : Bool :=
  pad.rawButton (Parameters.buttonX + 1)

def Y : Bool :=
  pad.rawButton (Parameters.buttonY + 1)

def leftBumper : Bool :=
  pad.rawButton (Parameters.buttonLeftBumper + 1)

def leftBumperPressed : Bool :=
  pad.rawButtonPressed (Parameters.buttonLeftBumper + 1)

def leftBumperReleased : Bool :=
  pad.rawButtonReleased (Parameters.buttonLeftBumper + 1)

def rightBumper : Bool :=
  pad.rawButton (Parameters.buttonRightBumper + 1)

def rightBumperPressed : Bool :=
  pad.rawButtonPressed (Parameters.buttonRightBumper + 1)

def rightBumperReleased : Bool :=
  pad.rawButtonReleased (Parameters.buttonRightBumper + 1)

end GamepadReading

/-- The local variables of `teleop.bot`. -/
structure TeleopScript where
  lowGear : Bool
  hasGoneUp : Bool
  shootPressed : Bool
  shootReleased : Bool
  shootDown : Bool
  intakePressed : Bool
  intakeReleased : Bool
  intakeDown : Bool
  deriving DecidableEq, Repr

namespace TeleopScript

variable {K : Type*}

/-- The variables after the file is loaded. -/
def load : TeleopScript :=
  ⟨false, false, false, false, false, false, false, false⟩

def updateGamepadState (script : TeleopScript) (pad : GamepadReading K) : TeleopScript :=
  { script with
    shootPressed := pad.rightBumperPressed
    shootReleased := pad.rightBumperReleased
    shootDown := pad.rightBumper
    intakePressed := pad.leftBumperPressed
    intakeReleased := pad.leftBumperReleased
    intakeDown := pad.leftBumper }

def updateSpeed (script : TeleopScript) (pad : GamepadReading K) : TeleopScript :=
  if pad.B then
    { script with lowGear := true }
  else if pad.X then
    { script with lowGear := false }
  else
    script

def updateArms (script : TeleopScript) (pad : GamepadReading K) :
    TeleopScript × List (BindingCall K) :=
  if pad.Y then
    ({ script with hasGoneUp := true }, [.moveUp])
  else if pad.A then
    -- Without `has_gone_up` nothing is commanded.
    if script.hasGoneUp then (script, [.moveDown]) else (script, [])
  else
    (script, [.stopLifter])

variable [Field K] [LinearOrder K] [FloorRing K]

/-- `update_shooter`.  Nothing that the script called before it in the same
tick acts on the shooter. -/
def updateShooter (script : TeleopScript) (pad : GamepadReading K) (shooter : Shooter K) :
    List (BindingCall K) :=
  if shooter.isShooting || script.shootReleased then
    []
  else if script.intakePressed || script.intakeReleased || script.intakeDown then
    if script.intakePressed || script.intakeDown then [.intake] else [.stopShooter]
  else if shooter.isLoading then
    []
  else if script.shootDown || script.shootPressed then
    [.shoot 1]
  else if pad.pov = 0 then
    [.shoot 0.80]
  else if pad.pov = 90 then
    [.shoot 0.60]
  else if pad.pov = 180 then
    [.shoot 0.40]
  else if pad.pov = 270 then
    [.shoot 0.20]
  else
    []

def teleopRun (script : TeleopScript) (pad : GamepadReading K) (params : Parameters K) (now : K)
    (shooter : Shooter K) : TeleopScript × List (BindingCall K) :=
  let script := (script.updateGamepadState pad).updateSpeed pad
  let speed := if script.lowGear then params.getSpeed * 0.25 else params.getSpeed
  let (script, arms) := script.updateArms pad
  (script,
    .drive now speed params.getAngularSpeed :: arms ++ script.updateShooter pad shooter)

/-- Loading `teleop.bot`: its `init` and `teleop_prepare` do nothing. -/
def sessionStart (config : Config K) : SessionStart K where
  botPath := "teleop.bot"
  load := .factory [] (some fun _ => true)
  init := ⟨[], none⟩
  prepare := ⟨[], none⟩
  config := config

end TeleopScript

namespace RobotMain

variable {K τ π : Type*}

/-- The engine of a Teleop session that has had no error. -/
structure RunsTeleop (robot : RobotMain K τ) : Prop where
  engine : ∃ engine, robot.engine = some engine ∧ ∀ callback, engine.defines callback = true
  noError : robot.luaErrorEncountered = false
  unprotected : robot.protectedLuaCalls = false

variable [Field K] [LinearOrder K] [FloorRing K]

theorem luaPeriodic_of_connected (platform : Platform K τ π) {robot : RobotMain K τ}
    (runs : robot.RunsTeleop) {pad : GamepadReading K} (connected : pad.connected = true)
    (calls : List (BindingCall K)) :
    ∃ history, robot.luaPeriodic platform pad ⟨calls, none⟩ =
      .ok { robot with
        drivetrain := (robot.toActuators.performAll calls).drivetrain
        lifter := (robot.toActuators.performAll calls).lifter
        shooter := (robot.toActuators.performAll calls).shooter.process
        gamepadConnected := true
        params := robot.processedParams pad
        engineCalls := history } := by
  obtain ⟨engine, engineEq, defines⟩ := runs.engine
  have control : ¬ robot.LosesControl pad := by simp [LosesControl, connected, runs.noError]
  refine ⟨robot.engineCalls ++ [⟨robot.sessions, engine.identity, .run, true, false⟩], ?_⟩
  rw [luaPeriodic_of_control platform control]
  simp [runs.unprotected, runEngine, prepared, engineEq, invoke, defines, Engine.fails, Except.map]

theorem teleopInit_sessionStart (robot : RobotMain K τ) (config : Config K) :
    ∃ begun, robot.teleopInit (TeleopScript.sessionStart config) = .ok begun ∧
      begun.RunsTeleop ∧ begun.lifter = robot.lifter ∧
        begun.shooter = robot.shooter.reset config := by
  refine ⟨_, rfl, ⟨⟨_, rfl, ?_⟩, rfl, rfl⟩, rfl, rfl⟩
  intro callback
  rfl

theorem luaExit_of_runsTeleop {robot : RobotMain K τ} (runs : robot.RunsTeleop) :
    ∃ left, robot.luaExit ⟨[], none⟩ = .ok left ∧ left.toActuators = robot.toActuators := by
  obtain ⟨engine, engineEq, defines⟩ := runs.engine
  simp [luaExit, runs.noError, checkedCall, engineEq, luaLogErrorIfPresent, invoke,
    Engine.fails]

end RobotMain

/-- A Teleop session that runs `teleop.bot`, without a Lua error. -/
structure TeleopSession (K τ : Type*) where
  robot : RobotMain K τ
  script : TeleopScript
  runs : robot.RunsTeleop

/-- What one `TeleopPeriodic` reads: the gamepad, and the clock in `drive`. -/
structure TeleopInput (K : Type*) where
  pad : GamepadReading K
  now : K

/-- The bumpers held during a tick. -/
structure BumperLevels where
  left : Bool
  right : Bool
  deriving DecidableEq, Repr

/-- A tick on the bench, with the bumpers held before it and during it. -/
def TeleopInput.bench (previous held : BumperLevels) : TeleopInput Rat where
  pad :=
    { GamepadReading.bench true with
      rawButton := fun button => button = 5 && held.left || button = 6 && held.right
      rawButtonPressed := fun button =>
        button = 5 && !previous.left && held.left || button = 6 && !previous.right && held.right
      rawButtonReleased := fun button =>
        button = 5 && previous.left && !held.left || button = 6 && previous.right && !held.right }
  now := 0

namespace TeleopSession

variable {K τ π : Type*} [Field K] [LinearOrder K] [FloorRing K]

/-- The variables and the calls of the program after a tick.  Without the
controller the program is not run. -/
def respond (session : TeleopSession K τ) (input : TeleopInput K) :
    TeleopScript × List (BindingCall K) :=
  if input.pad.connected then
    session.script.teleopRun input.pad (session.robot.processedParams input.pad) input.now
      session.robot.shooter
  else
    (session.script, [])

theorem luaPeriodic_respond (platform : Platform K τ π) (session : TeleopSession K τ)
    (input : TeleopInput K) :
    ∃ next, session.robot.luaPeriodic platform input.pad ⟨(session.respond input).2, none⟩ =
        .ok next ∧ next.RunsTeleop ∧
      next.lifter =
        (session.robot.toActuators.performAll (session.respond input).2).lifter ∧
      next.shooter =
        (session.robot.toActuators.performAll (session.respond input).2).shooter.process := by
  have runs := session.runs
  cases connected : input.pad.connected with
  | true =>
      obtain ⟨history, returned⟩ := RobotMain.luaPeriodic_of_connected platform runs connected
        (session.respond input).2
      exact ⟨_, returned, ⟨runs.engine, runs.noError, runs.unprotected⟩, rfl, rfl⟩
  | false =>
      have noCalls : (session.respond input).2 = [] := by simp [respond, connected]
      refine ⟨_, RobotMain.luaPeriodic_of_losesControl platform (.inl connected) _,
        ⟨runs.engine, runs.noError, runs.unprotected⟩, ?_, ?_⟩ <;> simp [noCalls]

/-- `TeleopInit`. -/
def begin (robot : RobotMain K τ) (config : Config K) : TeleopSession K τ :=
  match returned : robot.teleopInit (TeleopScript.sessionStart config) with
  | .ok begun =>
      ⟨begun, .load, by
        obtain ⟨begun', returned', runs, -⟩ := robot.teleopInit_sessionStart config
        obtain rfl : begun' = begun := Except.ok.inj (returned'.symm.trans returned)
        exact runs⟩
  | .error halt => absurd returned (by
      obtain ⟨begun, returned', -⟩ := robot.teleopInit_sessionStart config
      simp [returned'])

/-- `TeleopPeriodic`. -/
def tick (platform : Platform K τ π) (session : TeleopSession K τ) (input : TeleopInput K) :
    TeleopSession K τ :=
  match returned :
      session.robot.luaPeriodic platform input.pad ⟨(session.respond input).2, none⟩ with
  | .ok next =>
      ⟨next, (session.respond input).1, by
        obtain ⟨next', returned', runs, -⟩ := session.luaPeriodic_respond platform input
        obtain rfl : next' = next := Except.ok.inj (returned'.symm.trans returned)
        exact runs⟩
  | .error halt => absurd returned (by
      obtain ⟨next, returned', -⟩ := session.luaPeriodic_respond platform input
      simp [returned'])

/-- `TeleopExit`. -/
def finish (session : TeleopSession K τ) : RobotMain K τ :=
  match returned : session.robot.luaExit ⟨[], none⟩ with
  | .ok left => left
  | .error halt => absurd returned (by
      obtain ⟨left, returned', -⟩ := RobotMain.luaExit_of_runsTeleop session.runs
      simp [returned'])

theorem begin_spec (robot : RobotMain K τ) (config : Config K) :
    robot.teleopInit (TeleopScript.sessionStart config) = .ok (begin robot config).robot ∧
      (begin robot config).script = .load ∧ (begin robot config).robot.lifter = robot.lifter ∧
        (begin robot config).robot.shooter = robot.shooter.reset config := by
  obtain ⟨begun, returned, -, lifterEq, shooterEq⟩ := robot.teleopInit_sessionStart config
  unfold begin
  split
  next begun' returned' =>
    obtain rfl : begun = begun' := Except.ok.inj (returned.symm.trans returned')
    exact ⟨returned, rfl, lifterEq, shooterEq⟩
  next halt returned' => simp [returned] at returned'

theorem tick_spec (platform : Platform K τ π) (session : TeleopSession K τ)
    (input : TeleopInput K) :
    session.robot.luaPeriodic platform input.pad ⟨(session.respond input).2, none⟩ =
        .ok (session.tick platform input).robot ∧
      (session.tick platform input).script = (session.respond input).1 ∧
      (session.tick platform input).robot.lifter =
        (session.robot.toActuators.performAll (session.respond input).2).lifter ∧
      (session.tick platform input).robot.shooter =
        (session.robot.toActuators.performAll (session.respond input).2).shooter.process := by
  obtain ⟨next, returned, -, lifterEq, shooterEq⟩ := session.luaPeriodic_respond platform input
  unfold tick
  split
  next next' returned' =>
    obtain rfl : next = next' := Except.ok.inj (returned.symm.trans returned')
    exact ⟨returned, rfl, lifterEq, shooterEq⟩
  next halt returned' => simp [returned] at returned'

theorem finish_spec (session : TeleopSession K τ) :
    session.robot.luaExit ⟨[], none⟩ = .ok session.finish ∧
      session.finish.toActuators = session.robot.toActuators := by
  obtain ⟨left, returned, actuatorsEq⟩ := RobotMain.luaExit_of_runsTeleop session.runs
  unfold finish
  split
  next left' returned' =>
    obtain rfl : left = left' := Except.ok.inj (returned.symm.trans returned')
    exact ⟨returned, actuatorsEq⟩
  next halt returned' => simp [returned] at returned'

/-- The `TeleopPeriodic` callbacks of a session. -/
def periodicEvents (platform : Platform K τ π) :
    TeleopSession K τ → List (TeleopInput K) → List (Event K τ π)
  | _, [] => []
  | session, input :: rest =>
      .teleopPeriodic input.pad ⟨(session.respond input).2, none⟩ ::
        periodicEvents platform (session.tick platform input) rest

theorem run_periodicEvents (platform : Platform K τ π) (session : TeleopSession K τ)
    (inputs : List (TeleopInput K)) :
    TimedRobot.run platform ⟨session.robot, some .teleop⟩
        (session.periodicEvents platform inputs) =
      .ok ⟨(inputs.foldl (tick platform) session).robot, some .teleop⟩ := by
  induction inputs generalizing session with
  | nil => rfl
  | cons input rest ih =>
      refine Runs.foldlM_cons_ok.mpr ⟨_, ?_, ih (session.tick platform input)⟩
      exact TimedRobot.step_ok_iff.mpr ⟨rfl, (session.tick_spec platform input).1⟩

theorem run_session (platform : Platform K τ π) (robot : RobotMain K τ) (config : Config K)
    (inputs : List (TeleopInput K)) :
    TimedRobot.run platform ⟨robot, none⟩
        (.teleopInit (TeleopScript.sessionStart config) ::
          ((begin robot config).periodicEvents platform inputs ++ [.teleopExit ⟨[], none⟩])) =
      .ok ⟨(inputs.foldl (tick platform) (begin robot config)).finish, none⟩ := by
  refine Runs.foldlM_cons_ok.mpr ⟨⟨(begin robot config).robot, some .teleop⟩, ?_, ?_⟩
  · exact TimedRobot.step_ok_iff.mpr ⟨rfl, (begin_spec robot config).1⟩
  · refine Runs.foldlM_append_ok.mpr ⟨_, run_periodicEvents platform _ inputs, ?_⟩
    refine Runs.foldlM_cons_ok.mpr ⟨_, TimedRobot.step_ok_iff.mpr ⟨rfl, ?_⟩, rfl⟩
    exact (finish_spec _).1

end TeleopSession

end RobotFirmware
