import RobotFirmware.LuaErrors

/-!
# Trying a bot in Test

Test runs the bot that is chosen on the dashboard, by default `teleop.bot`.  It
shares `luaPeriodic` with Teleop and checks the calls of `run`.  As long as Lua
raises no error there, a bot does in Test what it does in Teleop.
-/

namespace RobotFirmware

/-- The method of Test in the place of one of Teleop. -/
def EngineMethod.checked : EngineMethod → EngineMethod
  | .run => .safeRun
  | method => method

theorem EngineMethod.callback_checked (method : EngineMethod) :
    method.checked.callback = method.callback := by
  cases method <;> rfl

def EngineCall.checked (call : EngineCall) : EngineCall :=
  { call with method := call.method.checked }

def Mode.inTest : Mode → Mode
  | .teleop => .test
  | mode => mode

namespace Event

variable {K τ π : Type*}

/-- The callback of Test in the place of one of Teleop, with the bot that is
chosen on the dashboard. -/
def inTest (botPath : String) : Event K τ π → Event K τ π
  | .teleopInit start => .testInit { start with botPath := botPath }
  | .teleopPeriodic pad outcome => .testPeriodic pad outcome
  | .teleopExit outcome => .testExit outcome
  | event => event

/-- Lua raises no error in a tick of Teleop. -/
def RunsCleanly : Event K τ π → Prop
  | .teleopPeriodic _ outcome => outcome.error = none
  | _ => True

theorem schedule_inTest (botPath : String) (event : Event K τ π) {mode next : Option Mode}
    (scheduled : schedule mode event.slot = some next) :
    schedule (mode.map Mode.inTest) (event.inTest botPath).slot = some (next.map Mode.inTest) := by
  cases mode with
  | none => cases event <;> cases scheduled <;> rfl
  | some current => cases current <;> cases event <;> cases scheduled <;> rfl

end Event

namespace Engine

variable {K : Type*}

/-- The engine without its error text. -/
def cleared (engine : Engine) : Engine :=
  { engine with error := "" }

theorem cleared_instantiate (identity : Nat) (first second : String) (load : LoadOutcome K) :
    (instantiate identity first load).cleared = (instantiate identity second load).cleared := by
  cases load with
  | factory calls defines => cases defines <;> rfl
  | _ => rfl

theorem haveError_instantiate (identity : Nat) (first second : String) (load : LoadOutcome K) :
    (instantiate identity first load).haveError = (instantiate identity second load).haveError := by
  cases load with
  | missing =>
      have nonempty (path : String) : ("file does not exist: " ++ path).isEmpty = false := by
        simp [String.isEmpty_eq_false_iff, ← String.toList_inj]
      simp only [instantiate, haveError, nonempty]
  | factory calls defines => cases defines <;> rfl
  | _ => rfl

@[simp]
theorem cleared_protectedCall (engine : Engine) (method : EngineMethod)
    (outcome : LuaOutcome K) : (engine.protectedCall method outcome).cleared = engine.cleared := by
  simp [cleared]

variable {engine twin : Engine} (alike : twin.cleared = engine.cleared)

include alike

theorem identity_of_cleared_eq : twin.identity = engine.identity := by
  have same := congrArg identity alike
  exact same

theorem raised_of_cleared_eq {method method' : EngineMethod}
    (callback : method'.callback = method.callback) (outcome : LuaOutcome K) :
    twin.raised method' outcome = engine.raised method outcome := by
  have same : twin.defines = engine.defines := by
    have same := congrArg defines alike
    exact same
  rw [raised, raised, same, callback]

theorem fails_of_cleared_eq {method method' : EngineMethod}
    (callback : method'.callback = method.callback) (outcome : LuaOutcome K) :
    twin.fails method' outcome = engine.fails method outcome := by
  rw [fails_eq, fails_eq, raised_of_cleared_eq alike callback]

end Engine

namespace RobotMain

variable {K τ π : Type*}

/-- The second robot differs from the first one at most in its flag, in the
error text of its engine, and in having checked the calls of `run`. -/
def Twin (robot twin : RobotMain K τ) : Prop :=
  ∃ engine flag, engine.map Engine.cleared = robot.engine.map Engine.cleared ∧
    twin = { robot with
      engine := engine
      protectedLuaCalls := flag
      engineCalls := robot.engineCalls.map EngineCall.checked }

/-- A robot that has made no call yet is its own twin. -/
theorem twin_of_no_calls {robot : RobotMain K τ} (noCalls : robot.engineCalls = []) :
    robot.Twin robot := by
  refine ⟨robot.engine, robot.protectedLuaCalls, rfl, ?_⟩
  have unchanged : robot.engineCalls.map EngineCall.checked = robot.engineCalls := by simp [noCalls]
  rw [unchanged]

theorem Twin.exists_engine {robot twin : RobotMain K τ} (twins : robot.Twin twin)
    {engine : Engine} (current : robot.engine = some engine) :
    ∃ engine', twin.engine = some engine' ∧ engine'.cleared = engine.cleared := by
  obtain ⟨engine', flag, alike, rfl⟩ := twins
  rw [current, Option.map_some, Option.map_eq_some_iff] at alike
  exact alike

/-- Twins record the result of a call in the same way. -/
theorem Twin.record {robot twin : RobotMain K τ} (twins : robot.Twin twin)
    {engine engine' : Engine} (alike : engine'.cleared = engine.cleared) (error : Bool) (log : List LoggedError) :
    { robot with
      engine := some engine
      luaErrorEncountered := error
      errorLog := log }.Twin
    { twin with
      engine := some engine'
      luaErrorEncountered := error
      errorLog := log } := by
  obtain ⟨_, flag, -, rfl⟩ := twins
  exact ⟨some engine', flag, by simp [alike], rfl⟩

theorem Twin.autonomousInit {robot twin : RobotMain K τ} (twins : robot.Twin twin)
    (platform : Platform K τ π) (reads : ModeReads τ) (now : K) :
    (robot.autonomousInit platform reads now).Twin (twin.autonomousInit platform reads now) := by
  obtain ⟨engine, flag, alike, rfl⟩ := twins
  unfold RobotMain.autonomousInit reloadTrajectory
  split
  · exact ⟨engine, flag, alike, rfl⟩
  · dsimp only
    split <;> exact ⟨engine, flag, alike, rfl⟩

variable [Field K] [LinearOrder K]

theorem Twin.autonomousPeriodic {robot twin : RobotMain K τ} (twins : robot.Twin twin)
    (platform : Platform K τ π) (tick : AutoTick K π) :
    (robot.autonomousPeriodic platform tick).Twin (twin.autonomousPeriodic platform tick) := by
  have shoot : robot.autonomousShoot.Twin twin.autonomousShoot := by
    obtain ⟨engine, flag, alike, rfl⟩ := twins
    rw [autonomousShoot_eq, autonomousShoot_eq]
    exact ⟨engine, flag, alike, rfl⟩
  obtain ⟨engine, flag, alike, twinEq⟩ := shoot
  by_cases shooting : robot.autonomousShoot.shooter.state = .shooting
  · have shooting' : twin.autonomousShoot.shooter.state = .shooting := by rwa [twinEq]
    rw [autonomousPeriodic_of_shooting platform tick shooting,
      autonomousPeriodic_of_shooting platform tick shooting', twinEq]
    exact ⟨engine, flag, alike, rfl⟩
  · have moving : twin.autonomousShoot.shooter.state ≠ .shooting := by rwa [twinEq]
    rw [autonomousPeriodic_of_not_shooting platform tick shooting,
      autonomousPeriodic_of_not_shooting platform tick moving, autonomousMove_eq,
      autonomousMove_eq, twinEq]
    exact ⟨engine, flag, alike, rfl⟩

variable [FloorRing K] {robot twin : RobotMain K τ}

theorem Twin.invoke (twins : robot.Twin twin) {engine engine' : Engine}
    (alike : engine'.cleared = engine.cleared) (method : EngineMethod) (outcome : LuaOutcome K) :
    (robot.invoke engine method outcome).Twin (twin.invoke engine' method.checked outcome) := by
  obtain ⟨current, flag, same, rfl⟩ := twins
  have callback := method.callback_checked
  have defines : engine'.defines = engine.defines := by
    have same := congrArg Engine.defines alike
    exact same
  refine ⟨current, flag, same, ?_⟩
  simp only [RobotMain.invoke, callback, defines, List.map_append, List.map_cons, List.map_nil,
    EngineCall.checked, Engine.identity_of_cleared_eq alike,
    Engine.fails_of_cleared_eq alike callback]

theorem Twin.checkedCall (twins : robot.Twin twin) {method : EngineMethod}
    (isChecked : method.checked = method) {outcome : LuaOutcome K} {next : RobotMain K τ}
    (returned : robot.checkedCall method outcome = .ok next) :
    ∃ next', twin.checkedCall method outcome = .ok next' ∧ next.Twin next' := by
  obtain ⟨engine, current, rfl⟩ := eq_invoke_of_checkedCall returned
  obtain ⟨engine', current', alike⟩ := twins.exists_engine current
  have sameLog : twin.errorLog = robot.errorLog ∧ twin.sessions = robot.sessions := by
    obtain ⟨_, _, -, rfl⟩ := twins
    exact ⟨rfl, rfl⟩
  rw [checkedCall_of_engine current', sameLog.1, sameLog.2,
    Engine.fails_of_cleared_eq alike rfl, Engine.raised_of_cleared_eq alike rfl,
    Engine.identity_of_cleared_eq alike]
  refine ⟨_, rfl, ?_⟩
  have invoked := twins.invoke alike method outcome
  rw [isChecked] at invoked
  exact invoked.record (by simp [alike]) _ _

/-- An unchecked `run` without an error does what a checked one does. -/
theorem Twin.runEngine {platform : Platform K τ π} (twins : robot.Twin twin)
    (noError : robot.luaErrorEncountered = false) {outcome : LuaOutcome K}
    (clean : outcome.error = none) {next : RobotMain K τ}
    (returned : robot.runEngine platform outcome = .ok next) :
    ∃ next', twin.checkedCall .safeRun outcome = .ok next' ∧ next.Twin next' := by
  obtain ⟨engine, current, rfl⟩ := eq_invoke_of_runEngine returned
  obtain ⟨engine', current', alike⟩ := twins.exists_engine current
  have quiet : engine'.raised .safeRun outcome = none := by simp [Engine.raised, clean]
  have sameLog : twin.errorLog = robot.errorLog := by
    obtain ⟨_, _, -, rfl⟩ := twins
    rfl
  have unchanged : robot.invoke engine .run outcome =
      { robot.invoke engine .run outcome with
        engine := some engine
        luaErrorEncountered := false
        errorLog := robot.errorLog } := by
    rw [← current, ← noError]
    rfl
  rw [checkedCall_of_engine current', Engine.fails_eq, quiet, sameLog, unchanged]
  refine ⟨_, rfl, ?_⟩
  have invoked : (robot.invoke engine .run outcome).Twin (twin.invoke engine' .safeRun outcome) :=
    twins.invoke alike .run outcome
  have recorded (log : List LoggedError) :=
    invoked.record (engine'.cleared_protectedCall .safeRun outcome ▸ alike) false log
  simpa [logLines] using recorded robot.errorLog

theorem Twin.luaPeriodic {platform : Platform K τ π} (twins : robot.Twin twin)
    (isProtected : twin.protectedLuaCalls = true) {pad : GamepadReading K}
    {outcome : LuaOutcome K}
    (clean : robot.protectedLuaCalls = false → outcome.error = none) {next : RobotMain K τ}
    (returned : robot.luaPeriodic platform pad outcome = .ok next) :
    ∃ next', twin.luaPeriodic platform pad outcome = .ok next' ∧ next.Twin next' := by
  have sameError : twin.luaErrorEncountered = robot.luaErrorEncountered := by
    obtain ⟨_, _, -, rfl⟩ := twins
    rfl
  obtain ⟨lost, rfl⟩ | ⟨control, after, rfl, ran⟩ := luaPeriodic_cases returned
  · have lost' : twin.LosesControl pad := by rwa [LosesControl, sameError]
    refine ⟨_, luaPeriodic_of_losesControl platform lost' outcome, ?_⟩
    obtain ⟨engine, flag, alike, rfl⟩ := twins
    exact ⟨engine, flag, alike, rfl⟩
  · have control' : ¬ twin.LosesControl pad := by rwa [LosesControl, sameError]
    have prepared : (robot.prepared pad).Twin (twin.prepared pad) := by
      obtain ⟨engine, flag, alike, rfl⟩ := twins
      exact ⟨engine, flag, alike, rfl⟩
    obtain ⟨after', ran', ⟨engine, flag, alike, rfl⟩⟩ :
        ∃ after', (twin.prepared pad).checkedCall .safeRun outcome = .ok after' ∧
          after.Twin after' := by
      obtain ⟨-, ran⟩ | ⟨unprotected, ran⟩ := ran
      · exact prepared.checkedCall rfl ran
      · exact prepared.runEngine (noError_of_control control) (clean unprotected) ran
    rw [luaPeriodic_of_control platform control', isProtected, if_pos rfl, ran']
    exact ⟨_, rfl, engine, flag, alike, rfl⟩

theorem Twin.luaExit (twins : robot.Twin twin) {outcome : LuaOutcome K} {next : RobotMain K τ}
    (returned : robot.luaExit outcome = .ok next) :
    ∃ next', twin.luaExit outcome = .ok next' ∧ next.Twin next' := by
  have sameError : twin.luaErrorEncountered = robot.luaErrorEncountered := by
    obtain ⟨_, _, -, rfl⟩ := twins
    rfl
  cases error : robot.luaErrorEncountered with
  | true =>
      rw [error] at sameError
      simp only [RobotMain.luaExit, error, Bool.not_true, Bool.false_eq_true, if_false] at returned
      exact ⟨twin, by simp [RobotMain.luaExit, sameError], Except.ok.inj returned ▸ twins⟩
  | false =>
      rw [error] at sameError
      simp only [RobotMain.luaExit, error, Bool.not_false, if_true] at returned
      obtain ⟨next', returned', twins'⟩ := twins.checkedCall rfl returned
      exact ⟨next', by simpa [RobotMain.luaExit, sameError] using returned', twins'⟩

theorem Twin.safeLoadEngine (twins : robot.Twin twin) (start : SessionStart K)
    (botPath : String) :
    (robot.safeLoadEngine start).Twin (twin.safeLoadEngine { start with botPath := botPath }) := by
  obtain ⟨engine, flag, alike, rfl⟩ := twins
  have sameError := Engine.haveError_instantiate (robot.sessions + 1) start.botPath botPath start.load
  cases failed : (Engine.instantiate (robot.sessions + 1) start.botPath start.load).haveError with
  | true =>
      rw [failed] at sameError
      simp only [RobotMain.safeLoadEngine, loadEngine, failed, ← sameError, if_true]
      exact ⟨engine, flag, alike, rfl⟩
  | false =>
      rw [failed] at sameError
      simp only [RobotMain.safeLoadEngine, loadEngine, failed, ← sameError, Bool.false_eq_true,
        if_false]
      have same := Engine.cleared_instantiate (robot.sessions + 1) botPath start.botPath start.load
      refine Twin.record (Twin.invoke ?_ same .init start.init) ?_ _ _
      · exact ⟨engine, flag, alike, rfl⟩
      · rw [Engine.cleared_protectedCall, Engine.cleared_protectedCall, same]

theorem Twin.luaInit (twins : robot.Twin twin) {start : SessionStart K} (botPath : String)
    {next : RobotMain K τ} (returned : robot.luaInit start = .ok next) :
    ∃ next', twin.luaInit { start with botPath := botPath } = .ok next' ∧ next.Twin next' := by
  have begun := twins.safeLoadEngine start botPath
  have sameError :
      (twin.safeLoadEngine { start with botPath := botPath }).luaErrorEncountered =
        (robot.safeLoadEngine start).luaErrorEncountered := by
    obtain ⟨_, _, -, twinEq⟩ := begun
    rw [twinEq]
  cases error : (robot.safeLoadEngine start).luaErrorEncountered with
  | true =>
      rw [error] at sameError
      rw [RobotMain.luaInit, error, if_pos rfl] at returned
      exact ⟨_, by rw [RobotMain.luaInit, sameError, if_pos rfl], Except.ok.inj returned ▸ begun⟩
  | false =>
      rw [error] at sameError
      have reset : { robot.safeLoadEngine start with
          shooter := (robot.safeLoadEngine start).shooter.reset start.config }.Twin
          { twin.safeLoadEngine { start with botPath := botPath } with
            shooter := (twin.safeLoadEngine { start with botPath := botPath }).shooter.reset
              start.config } := by
        obtain ⟨engine, flag, alike, twinEq⟩ := begun
        rw [twinEq]
        exact ⟨engine, flag, alike, rfl⟩
      simp only [RobotMain.luaInit, luaPrepare, error, sameError] at returned ⊢
      exact reset.checkedCall rfl returned

theorem Twin.perform {platform : Platform K τ π} (twins : robot.Twin twin)
    {event : Event K τ π} (clean : event.RunsCleanly) (botPath : String)
    (checks : event.slot = .periodic .teleop ∨ event.slot = .periodic .test →
      twin.protectedLuaCalls = true)
    (inTest : event.slot = .periodic .test → robot.protectedLuaCalls = true)
    {next : RobotMain K τ} (returned : robot.perform platform event = .ok next) :
    ∃ next', twin.perform platform (event.inTest botPath) = .ok next' ∧ next.Twin next' := by
  have flagged (flag flag' : Bool) : { robot with protectedLuaCalls := flag }.Twin
      { twin with protectedLuaCalls := flag' } := by
    obtain ⟨engine, _, alike, rfl⟩ := twins
    exact ⟨engine, flag', alike, rfl⟩
  cases event with
  | autonomousInit reads now =>
      exact ⟨_, rfl, Except.ok.inj returned ▸ twins.autonomousInit platform reads now⟩
  | autonomousPeriodic tick =>
      exact ⟨_, rfl, Except.ok.inj returned ▸ twins.autonomousPeriodic platform tick⟩
  | teleopInit start => exact (flagged false true).luaInit botPath returned
  | testInit start => exact (flagged true true).luaInit start.botPath returned
  | teleopPeriodic pad outcome =>
      exact twins.luaPeriodic (checks (.inl rfl)) (fun _ => clean) returned
  | testPeriodic pad outcome =>
      refine twins.luaPeriodic (checks (.inr rfl)) (fun unprotected => ?_) returned
      simp [inTest rfl] at unprotected
  | teleopExit outcome => exact twins.luaExit returned
  | testExit outcome => exact twins.luaExit returned
  | disabledPeriodic =>
      obtain ⟨engine, flag, alike, rfl⟩ := twins
      exact ⟨_, rfl, Except.ok.inj returned ▸ ⟨engine, flag, alike, rfl⟩⟩
  | _ => exact ⟨twin, rfl, Except.ok.inj returned ▸ twins⟩

end RobotMain

namespace TimedRobot

variable {K τ π : Type*}

/-- The second system is in Test where the first one is in Teleop. -/
structure Paired (system twin : TimedRobot K τ) : Prop where
  mode_eq : twin.mode = system.mode.map Mode.inTest
  twins : system.robot.Twin twin.robot
  protectedByMode : system.ProtectedByMode
  protectedByMode' : twin.ProtectedByMode

variable [Field K] [LinearOrder K] [FloorRing K] {platform : Platform K τ π}

theorem paired_boot (platform : Platform K τ π) (config : Config K) (now : K)
    (reads : ModeReads τ) :
    Paired (boot platform config now reads) (boot platform config now reads) := by
  have booted : (boot platform config now reads).robot.engineCalls = [] :=
    congrArg EngineHistory.calls (engineHistory_create platform config now reads)
  have sound := (sound_boot platform config now reads).toProtectedByMode
  exact ⟨rfl, RobotMain.twin_of_no_calls booted, sound, sound⟩

theorem Paired.step {system twin next : TimedRobot K τ} (paired : system.Paired twin)
    {event : Event K τ π} (clean : event.RunsCleanly) (botPath : String)
    (taken : step platform system event = .ok next) :
    ∃ next', TimedRobot.step platform twin (event.inTest botPath) = .ok next' ∧
      next.Paired next' := by
  obtain ⟨scheduled, performed⟩ := step_ok_iff.mp taken
  have inTest : event.slot = .periodic .test → .test ∈ system.mode := fun ticks =>
    mem_of_schedule scheduled (.inl ticks)
  have inTeleop : event.slot = .periodic .teleop → .teleop ∈ system.mode := fun ticks =>
    mem_of_schedule scheduled (.inl ticks)
  have checks : event.slot = .periodic .teleop ∨ event.slot = .periodic .test →
      twin.robot.protectedLuaCalls = true := by
    intro ticks
    apply paired.protectedByMode'.test
    rw [paired.mode_eq]
    rcases ticks with ticks | ticks
    · exact Option.mem_map_of_mem Mode.inTest (inTeleop ticks)
    · exact Option.mem_map_of_mem Mode.inTest (inTest ticks)
  obtain ⟨robot, performed', twins⟩ := paired.twins.perform clean botPath checks
    (fun ticks => paired.protectedByMode.test (inTest ticks)) performed
  have taken' : TimedRobot.step platform twin (event.inTest botPath) =
      .ok ⟨robot, next.mode.map Mode.inTest⟩ := by
    rw [step_ok_iff, paired.mode_eq]
    exact ⟨event.schedule_inTest botPath scheduled, performed'⟩
  exact ⟨_, taken', rfl, twins, paired.protectedByMode.step taken,
    paired.protectedByMode'.step taken'⟩

/-- **Test does what Teleop does.** In any run in which Lua raises no error in a
Teleop tick, every Teleop session may be replaced by a Test session of the same
bot: each callback returns as before, and the robot is the same after the run,
its actuators, its parameters and its log included, except that `run` has been
called by `safe_run`. -/
theorem test_matches_teleop (platform : Platform K τ π) (config : Config K) (now : K)
    (reads : ModeReads τ) (botPath : String) {events : List (Event K τ π)}
    (clean : ∀ event ∈ events, event.RunsCleanly) {last : TimedRobot K τ}
    (ran : run platform (boot platform config now reads) events = .ok last) :
    ∃ twin, run platform (boot platform config now reads) (events.map (Event.inTest botPath)) =
        .ok twin ∧
      twin.mode = last.mode.map Mode.inTest ∧ last.robot.Twin twin.robot := by
  obtain ⟨twin, ran', paired⟩ := Runs.simulation_of_run (step platform) (step platform)
    (Event.inTest botPath) Paired Event.RunsCleanly
    (fun _ _ event _ paired clean taken => paired.step clean botPath taken)
    (paired_boot platform config now reads) clean ran
  exact ⟨twin, ran', paired.mode_eq, paired.twins⟩

/-- A session in Teleop, and in Test with another name of its bot. -/
theorem test_matches_teleop_bench :
    let events : List (Event Rat Unit Unit) :=
      [.teleopInit .bench, .teleopPeriodic (.bench true) ⟨[.moveUp, .drive 0 1 1], none⟩,
        .teleopExit ⟨[], none⟩]
    ∃ last twin,
      run Platform.bench (boot .bench .bench 0 (.bench (.boolean true))) events = .ok last ∧
        run Platform.bench (boot .bench .bench 0 (.bench (.boolean true)))
            (events.map (Event.inTest "test_v1.bot")) = .ok twin ∧
          twin.mode = last.mode.map Mode.inTest ∧ last.robot.Twin twin.robot := by
  intro events
  obtain ⟨last, ran⟩ :
      ∃ last, run Platform.bench (boot .bench .bench 0 (.bench (.boolean true))) events =
        .ok last := ⟨_, rfl⟩
  obtain ⟨twin, matched⟩ := test_matches_teleop .bench .bench 0 (.bench (.boolean true))
    "test_v1.bot" (by simp [events, Event.RunsCleanly]) ran
  exact ⟨last, twin, ran, matched⟩

end TimedRobot

end RobotFirmware
