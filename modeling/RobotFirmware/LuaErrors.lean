import RobotFirmware.EngineProtocol

/-!
# Errors that Lua raises

The robot program checks the callbacks `prepare`, `safe_run` and `cleanup`: an
error raised in one of them is recorded and logged.  `run` is called without a
check, and an error in it leaves the program.  Which of the two a `Periodic`
calls is decided by a flag that `Init` sets for its mode.
-/

namespace RobotFirmware

namespace Engine

variable {K : Type*}

/-- The error that running a method of the engine raises, if any. -/
def raised (engine : Engine) (method : EngineMethod) (outcome : LuaOutcome K) :
    Option LuaError :=
  if engine.defines method.callback then outcome.error else none

theorem fails_eq (engine : Engine) (method : EngineMethod) (outcome : LuaOutcome K) :
    engine.fails method outcome = (engine.raised method outcome).isSome := by
  cases defined : engine.defines method.callback <;> simp [fails, raised, defined]

theorem error_protectedCall {engine : Engine} {method : EngineMethod} {outcome : LuaOutcome K}
    {error : LuaError} (raises : engine.raised method outcome = some error) :
    (engine.protectedCall method outcome).error = error.val := by
  cases defined : engine.defines method.callback with
  | false => simp [raised, defined] at raises
  | true =>
      have outcomeError : outcome.error = some error := by simpa [raised, defined] using raises
      simp [protectedCall, defined, outcomeError]

@[simp]
theorem raised_protectedCall (engine : Engine) (before method : EngineMethod)
    (first outcome : LuaOutcome K) :
    (engine.protectedCall before first).raised method outcome = engine.raised method outcome := by
  simp [raised]

end Engine

/-- The flag that a callback sets for the `Periodic` callbacks of its mode. -/
def Event.protection {K τ π : Type*} : Event K τ π → Option Bool
  | .teleopInit _ => some false
  | .testInit _ => some true
  | _ => none

namespace RobotMain

variable {K τ π : Type*}

/-- The lines that a checked call adds to the log. -/
def logLines (session identity : Nat) (error : Option LuaError) : List LoggedError :=
  error.toList.map fun error => ⟨session, identity, error.val⟩

variable [Field K] [LinearOrder K] [FloorRing K]

/-- A checked call records whether Lua raised an error, and logs it. -/
theorem checkedCall_of_engine {robot : RobotMain K τ} {engine : Engine}
    (current : robot.engine = some engine) (method : EngineMethod) (outcome : LuaOutcome K) :
    robot.checkedCall method outcome =
      .ok { robot.invoke engine method outcome with
        engine := some (engine.protectedCall method outcome)
        luaErrorEncountered := engine.fails method outcome
        errorLog := robot.errorLog ++
          logLines robot.sessions engine.identity (engine.raised method outcome) } := by
  simp only [checkedCall, current, luaLogErrorIfPresent, Engine.haveError_protectedCall,
    Engine.identity_protectedCall]
  cases raises : engine.raised method outcome with
  | none => simp [Engine.fails_eq, raises, invoke, logLines]
  | some error =>
      simp [Engine.fails_eq, raises, invoke, logLines, Engine.error_protectedCall raises]

/-- What a checked call that returns has done. -/
theorem eq_invoke_of_checkedCall {robot next : RobotMain K τ} {method : EngineMethod}
    {outcome : LuaOutcome K} (returned : robot.checkedCall method outcome = .ok next) :
    ∃ engine, robot.engine = some engine ∧
      next = { robot.invoke engine method outcome with
        engine := some (engine.protectedCall method outcome)
        luaErrorEncountered := engine.fails method outcome
        errorLog := robot.errorLog ++
          logLines robot.sessions engine.identity (engine.raised method outcome) } := by
  cases current : robot.engine with
  | none => simp [checkedCall, current] at returned
  | some engine =>
      rw [checkedCall_of_engine current] at returned
      exact ⟨engine, rfl, (Except.ok.inj returned).symm⟩

theorem eq_invoke_of_runEngine {platform : Platform K τ π} {robot next : RobotMain K τ}
    {outcome : LuaOutcome K} (returned : robot.runEngine platform outcome = .ok next) :
    ∃ engine, robot.engine = some engine ∧ next = robot.invoke engine .run outcome := by
  unfold runEngine at returned
  split at returned
  · cases returned
  next engine current =>
    refine ⟨engine, current, ?_⟩
    split at returned
    · exact (Except.ok.inj returned).symm
    · split at returned
      · cases returned
      · exact (Except.ok.inj returned).symm

/-- What a tick that returns has done: nothing but stop the drivetrain, or one
call of the engine, checked or not. -/
theorem luaPeriodic_cases {platform : Platform K τ π} {robot next : RobotMain K τ}
    {pad : GamepadReading K} {outcome : LuaOutcome K}
    (returned : robot.luaPeriodic platform pad outcome = .ok next) :
    robot.LosesControl pad ∧
        next = { robot with
          drivetrain := robot.drivetrain.drive 0 0
          shooter := robot.shooter.process
          gamepadConnected := pad.connected } ∨
      ¬ robot.LosesControl pad ∧ ∃ after, next = { after with shooter := after.shooter.process } ∧
        (robot.protectedLuaCalls = true ∧
            (robot.prepared pad).checkedCall .safeRun outcome = .ok after ∨
          robot.protectedLuaCalls = false ∧
            (robot.prepared pad).runEngine platform outcome = .ok after) := by
  by_cases lost : robot.LosesControl pad
  · rw [luaPeriodic_of_losesControl platform lost] at returned
    exact .inl ⟨lost, (Except.ok.inj returned).symm⟩
  · rw [luaPeriodic_of_control platform lost] at returned
    obtain ⟨after, ran, rfl⟩ := Runs.map_ok.mp returned
    refine .inr ⟨lost, after, rfl, ?_⟩
    cases flag : robot.protectedLuaCalls with
    | true => exact .inl ⟨rfl, by rwa [flag, if_pos rfl] at ran⟩
    | false => exact .inr ⟨rfl, by rwa [flag, if_neg Bool.false_ne_true] at ran⟩

section Init

variable {robot : RobotMain K τ} {start : SessionStart K}

theorem luaInit_of_haveError (failed : (robot.newEngine start).haveError = true) :
    ∃ next, robot.luaInit start = .ok next ∧ next.errorLog = robot.errorLog ∧
      next.protectedLuaCalls = robot.protectedLuaCalls := by
  unfold newEngine at failed
  simp [luaInit, safeLoadEngine, loadEngine, failed]

/-- A session whose engine could be loaded begins with a checked `prepare`. -/
theorem luaInit_of_not_haveError (loaded : (robot.newEngine start).haveError = false) :
    ∃ begun : RobotMain K τ, robot.luaInit start = begun.checkedCall .prepare start.prepare ∧
      begun.engine = some ((robot.newEngine start).protectedCall .init start.init) ∧
      begun.sessions = robot.sessions + 1 ∧ begun.errorLog = robot.errorLog ∧
      begun.protectedLuaCalls = robot.protectedLuaCalls := by
  have begun : (robot.safeLoadEngine start).luaErrorEncountered = false ∧
      (robot.safeLoadEngine start).engine =
        some ((robot.newEngine start).protectedCall .init start.init) ∧
      (robot.safeLoadEngine start).sessions = robot.sessions + 1 ∧
      (robot.safeLoadEngine start).errorLog = robot.errorLog ∧
      (robot.safeLoadEngine start).protectedLuaCalls = robot.protectedLuaCalls := by
    unfold newEngine at loaded ⊢
    simp [safeLoadEngine, loadEngine, loaded, invoke]
  obtain ⟨noError, engine, sessions, errorLog, flag⟩ := begun
  refine ⟨{ robot.safeLoadEngine start with
    shooter := (robot.safeLoadEngine start).shooter.reset start.config }, ?_, engine, sessions,
    errorLog, flag⟩
  simp [luaInit, luaPrepare, noError]

end Init

section Protection

theorem protectedLuaCalls_checkedCall {robot next : RobotMain K τ} {method : EngineMethod}
    {outcome : LuaOutcome K} (returned : robot.checkedCall method outcome = .ok next) :
    next.protectedLuaCalls = robot.protectedLuaCalls := by
  obtain ⟨engine, -, rfl⟩ := eq_invoke_of_checkedCall returned
  rfl

theorem protectedLuaCalls_luaPeriodic {platform : Platform K τ π} {robot next : RobotMain K τ}
    {pad : GamepadReading K} {outcome : LuaOutcome K}
    (returned : robot.luaPeriodic platform pad outcome = .ok next) :
    next.protectedLuaCalls = robot.protectedLuaCalls := by
  obtain ⟨-, rfl⟩ | ⟨-, after, rfl, ⟨-, ran⟩ | ⟨-, ran⟩⟩ := luaPeriodic_cases returned
  · rfl
  · have same := protectedLuaCalls_checkedCall ran
    exact same
  · obtain ⟨engine, -, rfl⟩ := eq_invoke_of_runEngine ran
    rfl

theorem protectedLuaCalls_luaExit {robot next : RobotMain K τ} {outcome : LuaOutcome K}
    (returned : robot.luaExit outcome = .ok next) :
    next.protectedLuaCalls = robot.protectedLuaCalls := by
  unfold luaExit at returned
  split at returned
  · exact protectedLuaCalls_checkedCall returned
  · rw [← Except.ok.inj returned]

theorem protectedLuaCalls_luaInit {robot next : RobotMain K τ} {start : SessionStart K}
    (returned : robot.luaInit start = .ok next) :
    next.protectedLuaCalls = robot.protectedLuaCalls := by
  cases haveError : (robot.newEngine start).haveError with
  | true =>
      obtain ⟨begun, begunEq, -, same⟩ := luaInit_of_haveError haveError
      rw [begunEq] at returned
      rw [← Except.ok.inj returned, same]
  | false =>
      obtain ⟨begun, begunEq, -, -, -, same⟩ := luaInit_of_not_haveError haveError
      rw [begunEq] at returned
      rw [protectedLuaCalls_checkedCall returned, same]

/-- Only the `Init` of Teleop and that of Test set the flag. -/
theorem protectedLuaCalls_perform {platform : Platform K τ π} {robot next : RobotMain K τ}
    {event : Event K τ π} (returned : robot.perform platform event = .ok next) :
    next.protectedLuaCalls = event.protection.getD robot.protectedLuaCalls := by
  cases event with
  | autonomousInit reads now =>
      obtain ⟨_, _, _, reloaded⟩ := robot.reloadTrajectory_frame platform reads
      rw [← Except.ok.inj returned, autonomousInit, reloaded]
      rfl
  | autonomousPeriodic tick =>
      obtain ⟨_, _, _, ticked⟩ := robot.autonomousPeriodic_frame platform tick
      rw [← Except.ok.inj returned, ticked]
      rfl
  | teleopInit start => exact protectedLuaCalls_luaInit returned
  | testInit start => exact protectedLuaCalls_luaInit returned
  | teleopPeriodic pad outcome => exact protectedLuaCalls_luaPeriodic returned
  | testPeriodic pad outcome => exact protectedLuaCalls_luaPeriodic returned
  | teleopExit outcome => exact protectedLuaCalls_luaExit returned
  | testExit outcome => exact protectedLuaCalls_luaExit returned
  | _ =>
      rw [← Except.ok.inj returned]
      rfl

end Protection

section Uncaught

/-- The tick runs the engine without a check, and Lua raises an error. -/
def RaisesUncaught (platform : Platform K τ π) (robot : RobotMain K τ) (pad : GamepadReading K)
    (outcome : LuaOutcome K) (error : LuaError) : Prop :=
  ¬ robot.LosesControl pad ∧ platform.safeFunctions = false ∧
    ∃ engine, robot.engine = some engine ∧ engine.raised .run outcome = some error

theorem runEngine_error_iff (platform : Platform K τ π) {robot : RobotMain K τ} {engine : Engine}
    (current : robot.engine = some engine) (outcome : LuaOutcome K) (halt : Halt) :
    robot.runEngine platform outcome = .error halt ↔
      platform.safeFunctions = false ∧
        ∃ error, engine.raised .run outcome = some error ∧ halt = .uncaught error := by
  have method : EngineMethod.run.callback = .run := rfl
  cases raises : outcome.error with
  | none => simp [runEngine, current, Engine.raised, raises]
  | some error =>
      cases defined : engine.defines .run with
      | false => simp [runEngine, current, Engine.raised, raises, method, defined]
      | true =>
          cases safe : platform.safeFunctions with
          | true => simp [runEngine, current, raises, defined, safe]
          | false =>
              simp only [runEngine, current, Engine.raised, raises, method, defined, safe]
              simp [eq_comm (a := halt)]

variable (platform : Platform K τ π) {robot : RobotMain K τ}
  (ready : robot.luaErrorEncountered = false → robot.engine.isSome)

include ready

theorem luaPeriodic_error_iff_of_unprotected (unprotected : robot.protectedLuaCalls = false)
    (pad : GamepadReading K) (outcome : LuaOutcome K) (halt : Halt) :
    robot.luaPeriodic platform pad outcome = .error halt ↔
      ∃ error, robot.RaisesUncaught platform pad outcome error ∧ halt = .uncaught error := by
  by_cases lost : robot.LosesControl pad
  · rw [luaPeriodic_of_losesControl platform lost]
    simp [RaisesUncaught, lost]
  · have noError := noError_of_control lost
    obtain ⟨engine, current⟩ := Option.isSome_iff_exists.mp (ready noError)
    have prepared : (robot.prepared pad).engine = some engine := current
    have ran := runEngine_error_iff platform prepared outcome halt
    rw [luaPeriodic_of_control platform lost, unprotected]
    simp only [Bool.false_eq_true, if_false, RaisesUncaught, lost, not_false_iff, true_and, current,
      Option.some.injEq, exists_eq_left']
    cases returned : (robot.prepared pad).runEngine platform outcome with
    | ok next =>
        rw [returned] at ran
        simpa [Except.map, and_assoc] using ran
    | error halt' =>
        rw [returned] at ran
        simpa [Except.map, and_assoc] using ran

theorem luaPeriodic_ok_of_protected (isProtected : robot.protectedLuaCalls = true)
    (pad : GamepadReading K) (outcome : LuaOutcome K) :
    ∃ next, robot.luaPeriodic platform pad outcome = .ok next := by
  by_cases lost : robot.LosesControl pad
  · exact ⟨_, luaPeriodic_of_losesControl platform lost outcome⟩
  · have noError := noError_of_control lost
    obtain ⟨engine, current⟩ := Option.isSome_iff_exists.mp (ready noError)
    have prepared : (robot.prepared pad).engine = some engine := current
    rw [luaPeriodic_of_control platform lost, isProtected, if_pos rfl,
      checkedCall_of_engine prepared]
    exact ⟨_, rfl⟩

theorem luaExit_ok (outcome : LuaOutcome K) : ∃ next, robot.luaExit outcome = .ok next := by
  cases error : robot.luaErrorEncountered with
  | true => exact ⟨robot, by simp [luaExit, error]⟩
  | false =>
      obtain ⟨engine, current⟩ := Option.isSome_iff_exists.mp (ready error)
      simp [luaExit, error, checkedCall_of_engine current]

omit ready

theorem luaInit_ok (robot : RobotMain K τ) (start : SessionStart K) :
    ∃ next, robot.luaInit start = .ok next := by
  cases haveError : (robot.newEngine start).haveError with
  | true =>
      obtain ⟨next, returned, -⟩ := luaInit_of_haveError haveError
      exact ⟨next, returned⟩
  | false =>
      obtain ⟨begun, begunEq, current, -⟩ := luaInit_of_not_haveError haveError
      rw [begunEq, checkedCall_of_engine current]
      exact ⟨_, rfl⟩

end Uncaught

section Log

/-- The line for an error that a checked call of the current engine raises. -/
def engineErrors (robot : RobotMain K τ) (method : EngineMethod) (outcome : LuaOutcome K) :
    List LoggedError :=
  match robot.engine with
  | none => []
  | some engine => logLines robot.sessions engine.identity (engine.raised method outcome)

/-- The line for an error that `prepare` raises while a session begins. -/
def prepareErrors (robot : RobotMain K τ) (start : SessionStart K) : List LoggedError :=
  if (robot.newEngine start).haveError then
    []
  else
    logLines (robot.sessions + 1) (robot.sessions + 1)
      ((robot.newEngine start).raised .prepare start.prepare)

/-- The lines for the errors that Lua raises in the checked calls of a callback. -/
def checkedErrors (robot : RobotMain K τ) : Event K τ π → List LoggedError
  | .teleopInit start => robot.prepareErrors start
  | .testInit start => robot.prepareErrors start
  | .testPeriodic pad outcome =>
      if !pad.connected || robot.luaErrorEncountered then []
      else robot.engineErrors .safeRun outcome
  | .teleopExit outcome =>
      if robot.luaErrorEncountered then [] else robot.engineErrors .cleanup outcome
  | .testExit outcome =>
      if robot.luaErrorEncountered then [] else robot.engineErrors .cleanup outcome
  | _ => []

theorem errorLog_checkedCall {robot next : RobotMain K τ} {method : EngineMethod}
    {outcome : LuaOutcome K} (returned : robot.checkedCall method outcome = .ok next) :
    next.errorLog = robot.errorLog ++ robot.engineErrors method outcome := by
  obtain ⟨engine, current, rfl⟩ := eq_invoke_of_checkedCall returned
  rw [engineErrors, current]

theorem errorLog_luaInit {robot next : RobotMain K τ} {start : SessionStart K}
    (returned : robot.luaInit start = .ok next) :
    next.errorLog = robot.errorLog ++ robot.prepareErrors start := by
  cases haveError : (robot.newEngine start).haveError with
  | true =>
      obtain ⟨begun, begunEq, same, -⟩ := luaInit_of_haveError haveError
      rw [begunEq] at returned
      rw [← Except.ok.inj returned, same, prepareErrors, if_pos haveError, List.append_nil]
  | false =>
      obtain ⟨begun, begunEq, current, sessions, same, -⟩ := luaInit_of_not_haveError haveError
      rw [begunEq] at returned
      have own : (robot.newEngine start).identity = robot.sessions + 1 := by simp [newEngine]
      rw [errorLog_checkedCall returned, same, engineErrors, current, sessions, prepareErrors,
        if_neg (by simp [haveError])]
      simp [own]

theorem errorLog_luaPeriodic {platform : Platform K τ π} {robot next : RobotMain K τ}
    {pad : GamepadReading K} {outcome : LuaOutcome K}
    (returned : robot.luaPeriodic platform pad outcome = .ok next) :
    next.errorLog =
      robot.errorLog ++
        if !pad.connected || robot.luaErrorEncountered || !robot.protectedLuaCalls then []
        else robot.engineErrors .safeRun outcome := by
  obtain ⟨lost, rfl⟩ | ⟨control, after, rfl, ran⟩ := luaPeriodic_cases returned
  · simp [losesControl_iff.mp lost]
  · rw [Bool.eq_false_iff.mpr (mt losesControl_iff.mpr control)]
    obtain ⟨flag, ran⟩ | ⟨flag, ran⟩ := ran
    · rw [flag]
      have logged := errorLog_checkedCall ran
      exact logged
    · obtain ⟨engine, -, rfl⟩ := eq_invoke_of_runEngine ran
      simp [flag, invoke, prepared]

end Log

end RobotMain

namespace TimedRobot

variable {K τ π : Type*}

/-- The flag is the one of the open session. -/
structure ProtectedByMode (system : TimedRobot K τ) : Prop where
  teleop : .teleop ∈ system.mode → system.robot.protectedLuaCalls = false
  test : .test ∈ system.mode → system.robot.protectedLuaCalls = true

/-- What holds of the system between its callbacks. -/
structure Sound (system : TimedRobot K τ) : Prop extends ProtectedByMode system where
  inProtocol : system.InProtocol

/-- In a session without an error, the engine is there. -/
theorem Sound.ready {system : TimedRobot K τ} (sound : system.Sound) {mode : Mode}
    (current : mode ∈ system.mode) (lua : mode.runsLua = true) :
    system.robot.luaErrorEncountered = false → system.robot.engine.isSome := by
  intro noError
  obtain ⟨engine, engineEq, -⟩ := sound.inProtocol.exists_engine current lua noError
  simp [engineEq]

variable [Field K] [LinearOrder K] [FloorRing K] {platform : Platform K τ π}

theorem ProtectedByMode.step {system next : TimedRobot K τ} {event : Event K τ π}
    (byMode : system.ProtectedByMode) (taken : step platform system event = .ok next) :
    next.ProtectedByMode := by
  obtain ⟨scheduled, performed⟩ := step_ok_iff.mp taken
  have flag := RobotMain.protectedLuaCalls_perform performed
  constructor
  · intro isOpen
    rcases eq_of_mem_schedule scheduled isOpen with entered | ⟨ticked, current⟩
    · cases event <;> cases entered
      exact flag
    · cases event <;> cases ticked
      exact flag.trans (byMode.teleop current)
  · intro isOpen
    rcases eq_of_mem_schedule scheduled isOpen with entered | ⟨ticked, current⟩
    · cases event <;> cases entered
      exact flag
    · cases event <;> cases ticked
      exact flag.trans (byMode.test current)

theorem sound_boot (platform : Platform K τ π) (config : Config K) (now : K)
    (reads : ModeReads τ) : (boot platform config now reads).Sound :=
  ⟨⟨nofun, nofun⟩, inProtocol_boot platform config now reads⟩

theorem Sound.step {system next : TimedRobot K τ} {event : Event K τ π} (sound : system.Sound)
    (taken : step platform system event = .ok next) : next.Sound := by
  have safely := step_safely platform sound.inProtocol event
  rw [taken] at safely
  exact ⟨sound.toProtectedByMode.step taken, safely⟩

/-- A callback that is due fails exactly if it is a Teleop tick in which Lua
raises an error that nobody catches. -/
theorem Sound.perform_error_iff {system : TimedRobot K τ} (sound : system.Sound)
    {event : Event K τ π} {mode : Option Mode}
    (scheduled : schedule system.mode event.slot = some mode) {halt : Halt} :
    system.robot.perform platform event = .error halt ↔
      ∃ pad outcome error, event = .teleopPeriodic pad outcome ∧
        system.robot.RaisesUncaught platform pad outcome error ∧ halt = .uncaught error := by
  cases event with
  | teleopPeriodic pad outcome =>
      have current := mem_of_schedule scheduled (.inl rfl)
      have failed := RobotMain.luaPeriodic_error_iff_of_unprotected platform
        (sound.ready current rfl) (sound.teleop current) pad outcome halt
      rw [RobotMain.perform, failed]
      constructor
      · rintro ⟨error, raises, rfl⟩
        exact ⟨pad, outcome, error, rfl, raises, rfl⟩
      · rintro ⟨_, _, error, same, raises, rfl⟩
        cases same
        exact ⟨error, raises, rfl⟩
  | testPeriodic pad outcome =>
      have current := mem_of_schedule scheduled (.inl rfl)
      obtain ⟨next, returned⟩ := RobotMain.luaPeriodic_ok_of_protected platform
        (sound.ready current rfl) (sound.test current) pad outcome
      simp [RobotMain.perform, returned]
  | teleopExit outcome =>
      obtain ⟨next, returned⟩ := RobotMain.luaExit_ok
        (sound.ready (mem_of_schedule scheduled (.inr rfl)) rfl) outcome
      simp [RobotMain.perform, returned]
  | testExit outcome =>
      obtain ⟨next, returned⟩ := RobotMain.luaExit_ok
        (sound.ready (mem_of_schedule scheduled (.inr rfl)) rfl) outcome
      simp [RobotMain.perform, returned]
  | teleopInit start =>
      obtain ⟨next, returned⟩ :=
        RobotMain.luaInit_ok { system.robot with protectedLuaCalls := false } start
      simp [RobotMain.perform, RobotMain.teleopInit, returned]
  | testInit start =>
      obtain ⟨next, returned⟩ := RobotMain.luaInit_ok
        { system.robot with protectedLuaCalls := true, luaErrorEncountered := false } start
      simp [RobotMain.perform, RobotMain.testInit, returned]
  | _ => simp [RobotMain.perform]

/-- A callback that returns adds to the log the errors raised in its checked
calls. -/
theorem Sound.errorLog_perform {system : TimedRobot K τ} (sound : system.Sound)
    {event : Event K τ π} {mode : Option Mode}
    (scheduled : schedule system.mode event.slot = some mode) {next : RobotMain K τ}
    (returned : system.robot.perform platform event = .ok next) :
    next.errorLog = system.robot.errorLog ++ system.robot.checkedErrors event := by
  have exited {outcome : LuaOutcome K} (returned : system.robot.luaExit outcome = .ok next) :
      next.errorLog = system.robot.errorLog ++
        if system.robot.luaErrorEncountered then [] else
          system.robot.engineErrors .cleanup outcome := by
    cases error : system.robot.luaErrorEncountered with
    | true =>
        obtain rfl : system.robot = next := by simpa [RobotMain.luaExit, error] using returned
        simp
    | false =>
        simp only [RobotMain.luaExit, error, Bool.not_false, if_true] at returned
        simpa using RobotMain.errorLog_checkedCall returned
  cases event with
  | autonomousInit reads now =>
      obtain ⟨_, _, _, reloaded⟩ := system.robot.reloadTrajectory_frame platform reads
      rw [← Except.ok.inj returned, RobotMain.autonomousInit, reloaded]
      simp [RobotMain.checkedErrors]
  | autonomousPeriodic tick =>
      obtain ⟨_, _, _, ticked⟩ := system.robot.autonomousPeriodic_frame platform tick
      rw [← Except.ok.inj returned, ticked]
      simp [RobotMain.checkedErrors]
  | teleopInit start =>
      have logged := RobotMain.errorLog_luaInit returned
      exact logged
  | testInit start =>
      have logged := RobotMain.errorLog_luaInit returned
      exact logged
  | teleopPeriodic pad outcome =>
      have flag := sound.teleop (mem_of_schedule scheduled (.inl rfl))
      have logged := RobotMain.errorLog_luaPeriodic returned
      simpa [flag, RobotMain.checkedErrors] using logged
  | testPeriodic pad outcome =>
      have flag := sound.test (mem_of_schedule scheduled (.inl rfl))
      have logged := RobotMain.errorLog_luaPeriodic returned
      simpa [flag, RobotMain.checkedErrors] using logged
  | teleopExit outcome => exact exited returned
  | testExit outcome => exact exited returned
  | _ =>
      rw [← Except.ok.inj returned]
      simp [RobotMain.checkedErrors, RobotMain.driveDisabled]

/-- **The error log.** After every run the log consists of the errors that Lua
raised in the checked calls of the run, each once, with its own message, its
session and its engine, in the order in which they were raised. -/
theorem error_log_of_run (platform : Platform K τ π) (config : Config K) (now : K)
    (reads : ModeReads τ) (events : List (Event K τ π)) {last : TimedRobot K τ}
    (ran : run platform (boot platform config now reads) events = .ok last) :
    last.robot.errorLog =
      (Runs.transitions (step platform) (boot platform config now reads) events).flatMap
        fun taken => taken.1.robot.checkedErrors taken.2.1 := by
  have booted : (boot platform config now reads).robot.errorLog = [] :=
    congrArg EngineHistory.log (engineHistory_create platform config now reads)
  have logged := Runs.output_of_run (step platform) Sound (fun system => system.robot.errorLog)
    (fun system event => system.robot.checkedErrors event) ?_
    (sound_boot platform config now reads) ran
  · rw [logged, booted, List.nil_append]
  · intro system event next sound taken
    obtain ⟨scheduled, performed⟩ := step_ok_iff.mp taken
    exact ⟨sound.step taken, sound.errorLog_perform scheduled performed⟩

/-- A Test session in which `prepare` and the first tick raise an error. -/
theorem error_log_of_run_bench :
    let attempt : LuaError := ⟨"attempt to call nil", by decide⟩
    let index : LuaError := ⟨"attempt to index nil", by decide⟩
    ∃ last, run Platform.bench (boot .bench .bench 0 (.bench (.boolean true)))
        [.testInit { SessionStart.bench with prepare := ⟨[], some attempt⟩ }, .testExit ⟨[], none⟩,
          .testInit .bench, .testPeriodic (.bench true) ⟨[.moveUp], some index⟩] = .ok last ∧
      last.robot.errorLog = [⟨1, 1, attempt.val⟩, ⟨2, 2, index.val⟩] := by
  obtain ⟨last, ran⟩ : ∃ last, run Platform.bench (boot .bench .bench 0 (.bench (.boolean true)))
      [.testInit { SessionStart.bench with prepare := ⟨[], some ⟨"attempt to call nil", by decide⟩⟩ },
        .testExit ⟨[], none⟩, .testInit .bench,
        .testPeriodic (.bench true) ⟨[.moveUp], some ⟨"attempt to index nil", by decide⟩⟩] =
      .ok last := ⟨_, rfl⟩
  exact ⟨last, ran, error_log_of_run .bench .bench 0 (.bench (.boolean true)) _ ran⟩

/-- The callbacks come in an order that the framework can make. -/
def Scheduled : Option Mode → List (Event K τ π) → Prop
  | _, [] => True
  | mode, event :: rest => ∃ next, schedule mode event.slot = some next ∧ Scheduled next rest

theorem Scheduled.due_of_run {system before : TimedRobot K τ} {first rest : List (Event K τ π)}
    {event : Event K τ π} (ran : run platform system first = .ok before)
    (scheduled : Scheduled system.mode (first ++ event :: rest)) :
    ∃ mode, schedule before.mode event.slot = some mode := by
  induction first generalizing system with
  | nil =>
      cases ran
      obtain ⟨mode, due, -⟩ := scheduled
      exact ⟨mode, due⟩
  | cons head first ih =>
      obtain ⟨next, taken, remaining⟩ := Runs.foldlM_cons_ok.mp ran
      obtain ⟨mode, due, later⟩ := scheduled
      obtain rfl : mode = next.mode := Option.some.inj (due.symm.trans (step_ok_iff.mp taken).1)
      exact ih remaining later

theorem Sound.run {system last : TimedRobot K τ} (sound : system.Sound)
    {events : List (Event K τ π)} (ran : run platform system events = .ok last) : last.Sound :=
  Runs.invariant_of_run (TimedRobot.step platform) Sound (fun _ => True)
    (fun _ _ _ before _ taken => before.step taken) sound (fun _ _ => trivial) ran

/-- **Where the program ends.** A sequence of callbacks that the framework can
make runs to its end, unless a Teleop tick with the controller and without a
recorded error calls `run`, Lua raises an error in it, and sol does not turn
errors into results.  That error then leaves the program, and nothing else
does: not in Test, not in `Init` or `Exit`, and never a null engine or an array
index. -/
theorem run_error_iff (platform : Platform K τ π) (config : Config K) (now : K)
    (reads : ModeReads τ) (events : List (Event K τ π)) (scheduled : Scheduled none events)
    (halt : Halt) :
    run platform (boot platform config now reads) events = .error halt ↔
      ∃ first pad outcome rest system error,
        events = first ++ .teleopPeriodic pad outcome :: rest ∧
          run platform (boot platform config now reads) first = .ok system ∧
            system.robot.RaisesUncaught platform pad outcome error ∧ halt = .uncaught error := by
  rw [run, Runs.foldlM_error_iff]
  constructor
  · rintro ⟨first, event, rest, system, rfl, ran, failed⟩
    obtain ⟨mode, due⟩ := Scheduled.due_of_run ran scheduled
    have sound := (sound_boot platform config now reads).run ran
    simp only [step, due] at failed
    cases performed : system.robot.perform platform event with
    | ok next => simp [performed] at failed
    | error halt' =>
        obtain rfl : halt' = halt := by simpa [performed] using failed
        obtain ⟨pad, outcome, error, rfl, raises, rfl⟩ := (sound.perform_error_iff due).mp performed
        exact ⟨first, pad, outcome, rest, system, error, rfl, ran, raises, rfl⟩
  · rintro ⟨first, pad, outcome, rest, system, error, rfl, ran, raises, rfl⟩
    refine ⟨first, _, rest, system, rfl, ran, ?_⟩
    obtain ⟨mode, due⟩ := Scheduled.due_of_run ran scheduled
    have sound := (sound_boot platform config now reads).run ran
    have performed : system.robot.perform platform (.teleopPeriodic pad outcome) = _ :=
      (sound.perform_error_iff due).mpr ⟨pad, outcome, error, rfl, raises, rfl⟩
    simp only [step, due, performed]

/-- A Teleop session whose second tick raises an error. -/
theorem run_error_iff_bench :
    ∃ first pad outcome rest system error,
      ([.teleopInit .bench, .teleopPeriodic (.bench true) ⟨[], none⟩,
          .teleopPeriodic (.bench true) ⟨[], some ⟨"attempt to index nil", by decide⟩⟩] :
            List (Event Rat Unit Unit)) = first ++ .teleopPeriodic pad outcome :: rest ∧
        run Platform.bench (boot .bench .bench 0 (.bench (.boolean true))) first = .ok system ∧
          system.robot.RaisesUncaught .bench pad outcome error ∧
            Halt.uncaught ⟨"attempt to index nil", by decide⟩ = .uncaught error :=
  (run_error_iff .bench .bench 0 (.bench (.boolean true))
    [.teleopInit .bench, .teleopPeriodic (.bench true) ⟨[], none⟩,
      .teleopPeriodic (.bench true) ⟨[], some ⟨"attempt to index nil", by decide⟩⟩]
    ⟨_, rfl, _, rfl, _, rfl, trivial⟩ _).mp rfl

end TimedRobot

end RobotFirmware
