import RobotFirmware.RobotMain

/-!
# One tick of a Lua session

`RobotMain::luaPeriodic` has two kinds of ticks.  When the controller is not
connected or an error is recorded, control is lost and only the drivetrain is
stopped; otherwise the parameters are processed and the engine runs.
-/

namespace RobotFirmware

namespace RobotMain

variable {K τ π : Type*} [Field K] [LinearOrder K]

/-- The tick does not run the engine. -/
def LosesControl (robot : RobotMain K τ) (pad : GamepadReading K) : Prop :=
  pad.connected = false ∨ robot.luaErrorEncountered = true

theorem losesControl_iff {K τ : Type*} {robot : RobotMain K τ} {pad : GamepadReading K} :
    robot.LosesControl pad ↔ (!pad.connected || robot.luaErrorEncountered) = true := by
  simp [LosesControl]

theorem noError_of_control {K τ : Type*} {robot : RobotMain K τ} {pad : GamepadReading K}
    (control : ¬ robot.LosesControl pad) : robot.luaErrorEncountered = false :=
  Bool.eq_false_iff.mpr (not_or.mp control).2

/-- The parameters after `processParameters` with a connected controller. -/
def processedParams (robot : RobotMain K τ) (pad : GamepadReading K) : Parameters K :=
  robot.params.process ((Parameters.readContext pad).get (Parameters.readContext_isSome pad))

/-- The robot that the engine finds when it runs. -/
def prepared (robot : RobotMain K τ) (pad : GamepadReading K) : RobotMain K τ :=
  { robot with
    gamepadConnected := true
    params := robot.processedParams pad }

theorem processParameters_of_connected {robot : RobotMain K τ} (pad : GamepadReading K)
    (connected : robot.gamepadConnected = true) :
    robot.processParameters pad = .ok { robot with params := robot.processedParams pad } := by
  obtain ⟨context, read⟩ := Option.isSome_iff_exists.mp (Parameters.readContext_isSome pad)
  simp [processParameters, processedParams, connected, read]

variable [FloorRing K]

theorem luaPeriodic_of_losesControl (platform : Platform K τ π) {robot : RobotMain K τ}
    {pad : GamepadReading K} (lost : robot.LosesControl pad) (outcome : LuaOutcome K) :
    robot.luaPeriodic platform pad outcome =
      .ok { robot with
        drivetrain := robot.drivetrain.drive 0 0
        shooter := robot.shooter.process
        gamepadConnected := pad.connected } := by
  have idle : (!pad.connected || robot.luaErrorEncountered) = true := by
    rcases lost with disconnected | error
    · simp [disconnected]
    · simp [error]
  simp only [luaPeriodic, luaDrive, checkControllerConnection, idle, if_pos]
  rfl

theorem luaPeriodic_of_control (platform : Platform K τ π) {robot : RobotMain K τ}
    {pad : GamepadReading K} (control : ¬ robot.LosesControl pad) (outcome : LuaOutcome K) :
    robot.luaPeriodic platform pad outcome =
      (if robot.protectedLuaCalls then
        (robot.prepared pad).checkedCall .safeRun outcome
      else
        (robot.prepared pad).runEngine platform outcome).map
          fun next => { next with shooter := next.shooter.process } := by
  obtain ⟨connected, noError⟩ : pad.connected = true ∧ robot.luaErrorEncountered = false := by
    simpa [LosesControl] using control
  have running : (!(robot.checkControllerConnection pad).gamepadConnected ||
      (robot.checkControllerConnection pad).luaErrorEncountered) = false := by
    simp [checkControllerConnection, connected, noError]
  have ready : (robot.checkControllerConnection pad).processParameters pad =
      .ok (robot.prepared pad) := by
    rw [processParameters_of_connected pad connected]
    simp only [prepared, checkControllerConnection, connected, processedParams]
  have noErrorReady : (robot.prepared pad).luaErrorEncountered = false := noError
  have sameCalls : (robot.prepared pad).protectedLuaCalls = robot.protectedLuaCalls := rfl
  simp only [luaPeriodic, luaDrive, running, ready, noErrorReady, sameCalls]
  cases robot.protectedLuaCalls with
  | true =>
      simp only [Bool.not_true, Bool.not_false, Bool.false_eq_true, ↓reduceIte]
      cases (robot.prepared pad).checkedCall .safeRun outcome <;> rfl
  | false =>
      simp only [Bool.not_false, Bool.false_eq_true, ↓reduceIte]
      cases (robot.prepared pad).runEngine platform outcome <;> rfl

end RobotMain

end RobotFirmware
