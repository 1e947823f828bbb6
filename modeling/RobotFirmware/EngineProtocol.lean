import RobotFirmware.AutonomousTick
import RobotFirmware.EngineHistory
import RobotFirmware.LuaTick

/-!
# The engine protocol

The robot program refines the machine of the engine histories: every callback
that returns makes one of its transitions, and as long as the invariant of the
machine holds, no callback dereferences the null engine.
-/

namespace RobotFirmware

/-- The engine history of a robot. -/
def RobotMain.engineHistory {K τ : Type*} (robot : RobotMain K τ) : EngineHistory where
  engine := robot.engine.map Engine.identity
  error := robot.luaErrorEncountered
  sessions := robot.sessions
  failedLoads := robot.failedLoads
  calls := robot.engineCalls
  log := robot.errorLog

/-- The computation does not dereference the null engine, and what it returns
has a property. -/
def Safely {σ : Type*} (property : σ → Prop) : Except Halt σ → Prop
  | .ok state => property state
  | .error halt => halt ≠ .nullEngine

theorem Safely.mono {σ : Type*} {property property' : σ → Prop} {result : Except Halt σ}
    (safely : Safely property result) (weaker : ∀ state, property state → property' state) :
    Safely property' result := by
  cases result with
  | ok state => exact weaker state safely
  | error halt => exact safely

theorem safely_map {σ ρ : Type*} {property : ρ → Prop} {f : σ → ρ} {result : Except Halt σ} :
    Safely property (result.map f) ↔ Safely (fun state => property (f state)) result := by
  cases result <;> rfl

namespace Engine

variable {K : Type*}

theorem defines_of_fails {engine : Engine} {method : EngineMethod} {outcome : LuaOutcome K}
    (fails : engine.fails method outcome = true) : engine.defines method.callback = true := by
  simp only [Engine.fails, Bool.and_eq_true] at fails
  exact fails.1

end Engine

namespace RobotMain

open EngineHistory

variable {K τ π : Type*}

theorem engineHistory_luaLogErrorIfPresent (robot : RobotMain K τ) {engine : Engine}
    (current : robot.engine = some engine) :
    ∃ next message, robot.luaLogErrorIfPresent = .ok next ∧
      next.engineHistory =
        { robot.engineHistory with
          log :=
            if robot.luaErrorEncountered then
              robot.errorLog ++ [⟨robot.sessions, engine.identity, message⟩]
            else
              robot.errorLog } := by
  cases error : robot.luaErrorEncountered with
  | false => exact ⟨robot, "", by simp [luaLogErrorIfPresent, error], rfl⟩
  | true =>
      let message := if engine.haveError then engine.error else "unknown Lua error"
      refine ⟨{ robot with
        errorLog := robot.errorLog ++ [⟨robot.sessions, engine.identity, message⟩] },
        message, ?_, rfl⟩
      simp only [luaLogErrorIfPresent, error, current]
      rfl

/-- A method of the current engine is called, while no error is recorded. -/
def CallsCurrent (robot : RobotMain K τ) (callback : Callback) (next : RobotMain K τ) : Prop :=
  ∃ engine method invoked failed message, robot.engine = some engine ∧
    robot.luaErrorEncountered = false ∧ method.callback = callback ∧
      next.engineHistory =
        robot.engineHistory.call engine.identity method invoked failed message

theorem step_of_callsCurrent_run {robot next : RobotMain K τ} {mode : Mode}
    (lua : mode.runsLua = true)
    (ran : next.engineHistory = robot.engineHistory ∨ robot.CallsCurrent .run next) :
    Step (.periodic mode) robot.engineHistory next.engineHistory := by
  rcases ran with same | ⟨engine, method, invoked, failed, message, current, noError, isRun, same⟩
  · rw [same]
    exact .quiet fun _ entered => by cases entered
  · rw [same]
    exact .runs lua isRun (by simp [engineHistory, current]) noError invoked failed message

theorem step_of_callsCurrent_cleanup {robot next : RobotMain K τ} {mode : Mode}
    (lua : mode.runsLua = true)
    (ran : next.engineHistory = robot.engineHistory ∨ robot.CallsCurrent .cleanup next) :
    Step (.exit mode) robot.engineHistory next.engineHistory := by
  rcases ran with same | ⟨engine, method, invoked, failed, message, current, noError, isCleanup,
    same⟩
  · rw [same]
    exact .quiet fun _ entered => by cases entered
  · obtain rfl : method = .cleanup := by cases method <;> simp [EngineMethod.callback] at isCleanup ⊢
    rw [same]
    exact .cleansUp lua (by simp [engineHistory, current]) noError invoked failed message

theorem engineHistory_autonomousInit (platform : Platform K τ π) (robot : RobotMain K τ)
    (reads : ModeReads τ) (now : K) :
    (robot.autonomousInit platform reads now).engineHistory = robot.engineHistory := by
  obtain ⟨_, _, _, reloaded⟩ := robot.reloadTrajectory_frame platform reads
  rw [autonomousInit, reloaded]
  rfl

variable [Field K] [LinearOrder K]

theorem engineHistory_autonomousPeriodic (platform : Platform K τ π) (robot : RobotMain K τ)
    (tick : AutoTick K π) :
    (robot.autonomousPeriodic platform tick).engineHistory = robot.engineHistory := by
  obtain ⟨_, _, _, ticked⟩ := robot.autonomousPeriodic_frame platform tick
  rw [ticked]
  rfl

variable [FloorRing K]

theorem engineHistory_checkedCall {robot : RobotMain K τ} {engine : Engine}
    (current : robot.engine = some engine) {method : EngineMethod}
    (checked : (method != .init && method != .run) = true) (outcome : LuaOutcome K) :
    ∃ next message, robot.checkedCall method outcome = .ok next ∧
      next.engineHistory = robot.engineHistory.call engine.identity method
        (engine.defines method.callback) (engine.fails method outcome) message := by
  obtain ⟨next, message, logged, historyEq⟩ := engineHistory_luaLogErrorIfPresent
    { robot.invoke engine method outcome with
      engine := some (engine.protectedCall method outcome)
      luaErrorEncountered := (engine.protectedCall method outcome).haveError } rfl
  refine ⟨next, message, by rw [checkedCall, current]; exact logged, historyEq.trans ?_⟩
  obtain ⟨notInit, notRun⟩ := Bool.and_eq_true_iff.mp checked
  simp [engineHistory, EngineHistory.call, invoke, current, notInit, notRun]

theorem engineHistory_invoke (robot : RobotMain K τ) (engine : Engine) (method : EngineMethod)
    (unchecked : (method == .init || method == .run) = true) (outcome : LuaOutcome K)
    (noError : robot.luaErrorEncountered = false) :
    (robot.invoke engine method outcome).engineHistory =
      robot.engineHistory.call engine.identity method (engine.defines method.callback)
        (engine.fails method outcome) "" := by
  rcases Bool.or_eq_true_iff.mp unchecked with isInit | isRun
  · obtain rfl : method = .init := by simpa using isInit
    simp [engineHistory, EngineHistory.call, invoke, noError]
  · obtain rfl : method = .run := by simpa using isRun
    simp [engineHistory, EngineHistory.call, invoke, noError]

theorem runEngine_safely (platform : Platform K τ π) {robot : RobotMain K τ}
    (noError : robot.luaErrorEncountered = false) (ready : robot.engine.isSome)
    (outcome : LuaOutcome K) :
    Safely (robot.CallsCurrent .run) (robot.runEngine platform outcome) := by
  obtain ⟨engine, current⟩ := Option.isSome_iff_exists.mp ready
  have ran : robot.CallsCurrent .run (robot.invoke engine .run outcome) :=
    ⟨engine, .run, _, _, "", current, noError, rfl,
      engineHistory_invoke robot engine .run rfl outcome noError⟩
  simp only [runEngine, current]
  cases outcome.error with
  | none => exact ran
  | some error =>
      dsimp only
      split
      · simp [Safely]
      · exact ran

theorem checkedCall_safely {robot : RobotMain K τ}
    (noError : robot.luaErrorEncountered = false) (ready : robot.engine.isSome)
    {method : EngineMethod} (checked : (method != .init && method != .run) = true)
    (outcome : LuaOutcome K) :
    Safely (robot.CallsCurrent method.callback) (robot.checkedCall method outcome) := by
  obtain ⟨engine, current⟩ := Option.isSome_iff_exists.mp ready
  obtain ⟨next, message, returned, historyEq⟩ := engineHistory_checkedCall current checked outcome
  rw [returned]
  exact ⟨engine, method, _, _, message, current, noError, rfl, historyEq⟩

theorem luaPeriodic_safely (platform : Platform K τ π) {robot : RobotMain K τ}
    (ready : robot.luaErrorEncountered = false → robot.engine.isSome) (pad : GamepadReading K)
    (outcome : LuaOutcome K) :
    Safely (fun next => next.engineHistory = robot.engineHistory ∨ robot.CallsCurrent .run next)
      (robot.luaPeriodic platform pad outcome) := by
  by_cases lost : robot.LosesControl pad
  · rw [luaPeriodic_of_losesControl platform lost]
    exact .inl rfl
  · have noError : (robot.prepared pad).luaErrorEncountered = false :=
      Bool.not_eq_true _ ▸ (not_or.mp lost).2
    have current : (robot.prepared pad).engine.isSome := ready noError
    rw [luaPeriodic_of_control platform lost, safely_map]
    split
    · have checked : (EngineMethod.safeRun != .init && EngineMethod.safeRun != .run) = true := rfl
      exact (checkedCall_safely noError current checked outcome).mono fun next ran => .inr ran
    · have ran := runEngine_safely platform noError current outcome
      exact ran.mono fun next ran => .inr ran

theorem luaExit_safely {robot : RobotMain K τ}
    (ready : robot.luaErrorEncountered = false → robot.engine.isSome) (outcome : LuaOutcome K) :
    Safely
      (fun next => next.engineHistory = robot.engineHistory ∨ robot.CallsCurrent .cleanup next)
      (robot.luaExit outcome) := by
  cases error : robot.luaErrorEncountered with
  | true =>
      simp only [luaExit, error]
      exact .inl rfl
  | false =>
      simp only [luaExit, error]
      exact (checkedCall_safely error (ready error) rfl outcome).mono fun next ran => .inr ran

/-- The engine that a session tries to load. -/
def newEngine (robot : RobotMain K τ) (start : SessionStart K) : Engine :=
  Engine.instantiate (robot.sessions + 1) start.botPath start.load

theorem luaInit_of_failed {robot : RobotMain K τ} {start : SessionStart K}
    (failed : (robot.newEngine start).haveError = true) :
    ∃ next, robot.luaInit start = .ok next ∧
      next.engineHistory = robot.engineHistory.failLoad := by
  unfold newEngine at failed
  simp [luaInit, safeLoadEngine, loadEngine, failed, engineHistory, EngineHistory.failLoad]

theorem luaInit_of_loaded {robot : RobotMain K τ} {start : SessionStart K}
    (loaded : (robot.newEngine start).haveError = false) :
    ∃ next message, robot.luaInit start = .ok next ∧
      next.engineHistory =
        (robot.engineHistory.load.call (robot.sessions + 1) .init
            ((robot.newEngine start).defines .init)
            ((robot.newEngine start).fails .init start.init) "").call
          (robot.sessions + 1) .prepare ((robot.newEngine start).defines .prepare)
            ((robot.newEngine start).fails .prepare start.prepare) message := by
  unfold newEngine at loaded
  have begun : ∃ begun, robot.safeLoadEngine start = begun ∧
      begun.luaErrorEncountered = false ∧
      begun.engine = some ((robot.newEngine start).protectedCall .init start.init) ∧
      begun.engineHistory = robot.engineHistory.load.call (robot.sessions + 1) .init
        ((robot.newEngine start).defines .init)
        ((robot.newEngine start).fails .init start.init) "" := by
    simp [safeLoadEngine, loadEngine, loaded, engineHistory, EngineHistory.load,
      EngineHistory.call, invoke, newEngine, EngineMethod.callback]
  obtain ⟨begun, begunEq, noError, current, historyEq⟩ := begun
  have reset : ({ begun with shooter := begun.shooter.reset start.config } :
      RobotMain K τ).engine = some ((robot.newEngine start).protectedCall .init start.init) :=
    current
  have checked : (EngineMethod.prepare != .init && EngineMethod.prepare != .run) = true := rfl
  obtain ⟨next, message, returned, preparedEq⟩ :=
    engineHistory_checkedCall reset checked start.prepare
  refine ⟨next, message, ?_, ?_⟩
  · simp only [luaInit, begunEq, noError, luaPrepare]
    exact returned
  · rw [preparedEq]
    change begun.engineHistory.call _ _ _ _ _ = _
    rw [historyEq]
    simp [newEngine, Engine.fails]
    rfl

theorem luaInit_safely (robot : RobotMain K τ) (history : EngineHistory)
    (sameFail : history.failLoad = robot.engineHistory.failLoad)
    (sameLoad : history.load = robot.engineHistory.load) (mode : Mode)
    (lua : mode.runsLua = true) (start : SessionStart K) :
    Safely (fun next => Step (.init mode) history next.engineHistory)
      (robot.luaInit start) := by
  cases haveError : (robot.newEngine start).haveError with
  | true =>
      obtain ⟨next, returned, historyEq⟩ := luaInit_of_failed haveError
      rw [returned, Safely, historyEq, ← sameFail]
      exact .loadFails lua
  | false =>
      obtain ⟨next, message, returned, historyEq⟩ := luaInit_of_loaded haveError
      have sessionsEq : history.sessions = robot.sessions := by
        have sameNext := congrArg EngineHistory.sessions sameLoad
        exact Nat.succ.inj sameNext
      rw [returned, Safely, historyEq, ← sameLoad, ← sessionsEq]
      exact .loads lua message Engine.defines_of_fails Engine.defines_of_fails

/-- Every callback that returns makes a transition of the machine, and with an
engine where one is needed it does not dereference the null engine. -/
theorem perform_safely (platform : Platform K τ π) {robot : RobotMain K τ}
    (event : Event K τ π)
    (ready : ∀ mode, event.slot = .periodic mode ∨ event.slot = .exit mode →
      mode.runsLua = true → robot.luaErrorEncountered = false → robot.engine.isSome) :
    Safely (fun next => Step event.slot robot.engineHistory next.engineHistory)
      (robot.perform platform event) := by
  cases event with
  | disabledInit => exact .quiet fun mode entered => by cases entered; rfl
  | disabledPeriodic => exact .quiet fun mode entered => by cases entered
  | disabledExit => exact .quiet fun mode entered => by cases entered
  | autonomousInit reads now =>
      rw [perform, Safely, engineHistory_autonomousInit]
      exact .quiet fun mode entered => by cases entered; rfl
  | autonomousPeriodic tick =>
      rw [perform, Safely, engineHistory_autonomousPeriodic]
      exact .quiet fun mode entered => by cases entered
  | autonomousExit => exact .quiet fun mode entered => by cases entered
  | teleopInit start =>
      exact luaInit_safely { robot with protectedLuaCalls := false } robot.engineHistory
        rfl rfl .teleop rfl start
  | teleopPeriodic pad outcome =>
      exact (luaPeriodic_safely platform (ready .teleop (.inl rfl) rfl) pad outcome).mono
        fun next ran => step_of_callsCurrent_run rfl ran
  | teleopExit outcome =>
      exact (luaExit_safely (ready .teleop (.inr rfl) rfl) outcome).mono
        fun next ran => step_of_callsCurrent_cleanup rfl ran
  | testInit start =>
      exact luaInit_safely { robot with protectedLuaCalls := true, luaErrorEncountered := false }
        robot.engineHistory rfl rfl .test rfl start
  | testPeriodic pad outcome =>
      exact (luaPeriodic_safely platform (ready .test (.inl rfl) rfl) pad outcome).mono
        fun next ran => step_of_callsCurrent_run rfl ran
  | testExit outcome =>
      exact (luaExit_safely (ready .test (.inr rfl) rfl) outcome).mono
        fun next ran => step_of_callsCurrent_cleanup rfl ran

end RobotMain

namespace TimedRobot

open EngineHistory RobotMain

variable {K τ π : Type*}

/-- The invariant of the machine, for the system. -/
def InProtocol (system : TimedRobot K τ) : Prop :=
  EngineHistory.InProtocol system.mode system.robot.engineHistory

/-- In a session without an error the engine is there, and is the one that the
session has loaded. -/
theorem InProtocol.exists_engine {system : TimedRobot K τ} (inProtocol : system.InProtocol)
    {mode : Mode} (current : mode ∈ system.mode) (lua : mode.runsLua = true)
    (noError : system.robot.luaErrorEncountered = false) :
    ∃ engine, system.robot.engine = some engine ∧ engine.identity = system.robot.sessions := by
  have running := inProtocol.running mode current lua noError
  simpa [engineHistory] using running.current

variable [Field K] [LinearOrder K] [FloorRing K]

theorem engineHistory_create (platform : Platform K τ π) (config : Config K) (now : K)
    (reads : ModeReads τ) :
    (RobotMain.create platform config now reads).engineHistory =
      ⟨none, false, 0, [], [], []⟩ := by
  unfold RobotMain.create
  obtain ⟨_, _, _, reloaded⟩ := reloadTrajectory_frame platform _ reads
  rw [reloaded]
  rfl

theorem inProtocol_boot (platform : Platform K τ π) (config : Config K) (now : K)
    (reads : ModeReads τ) : (boot platform config now reads).InProtocol := by
  rw [InProtocol, boot, engineHistory_create]
  refine ⟨⟨by simp, by simp, by simp, fun identity => ⟨0, List.nil_prefix⟩⟩, by simp⟩

/-- The robot program refines the machine of the engine histories. -/
theorem step_refines (platform : Platform K τ π) {system : TimedRobot K τ}
    (inProtocol : system.InProtocol) {event : Event K τ π} {mode : Option Mode}
    (scheduled : schedule system.mode event.slot = some mode) :
    Safely (fun next => Step event.slot system.robot.engineHistory next.engineHistory)
      (system.robot.perform platform event) := by
  refine perform_safely platform event fun entered inside lua noError => ?_
  obtain ⟨engine, engineEq, -⟩ :=
    inProtocol.exists_engine (mem_of_schedule scheduled inside) lua noError
  simp [engineEq]

theorem step_safely (platform : Platform K τ π) {system : TimedRobot K τ}
    (inProtocol : system.InProtocol) (event : Event K τ π) :
    Safely InProtocol (system.step platform event) := by
  unfold step
  cases scheduled : schedule system.mode event.slot with
  | none => simp [Safely]
  | some mode =>
      have refines := step_refines platform inProtocol scheduled
      dsimp only
      cases performed : system.robot.perform platform event with
      | error halt =>
          rw [performed] at refines
          exact refines
      | ok robot =>
          rw [performed] at refines
          exact EngineHistory.InProtocol.step inProtocol scheduled refines

theorem inProtocol_of_reachable {platform : Platform K τ π} {system : TimedRobot K τ}
    (reachable : Reachable platform system) : system.InProtocol := by
  refine reachable_invariant InProtocol (inProtocol_boot platform) ?_ reachable
  intro system event next inProtocol taken
  have safely := step_safely platform inProtocol event
  rwa [taken] at safely

/-- **The engine protocol.** In every state that the robot program reaches, no
next callback dereferences the null engine; in a Teleop or Test session without
an error the current engine is the one that the session has loaded; every call
and every logged error was of the engine of its own session; no call was made
in a session whose engine could not be loaded; and every engine has received a
prefix of `init`, `prepare`, `run` any number of times and `cleanup`. -/
theorem engine_session_protocol (platform : Platform K τ π) (system : Reached platform) :
    (∀ event, system.val.step platform event ≠ .error .nullEngine) ∧
      (∀ mode ∈ system.val.mode, mode.runsLua = true →
        system.val.robot.luaErrorEncountered = false →
          ∃ engine, system.val.robot.engine = some engine ∧
            engine.identity = system.val.robot.sessions) ∧
        (∀ call ∈ system.val.robot.engineCalls, call.session = call.identity ∧
          call.session ∉ system.val.robot.failedLoads) ∧
          (∀ line ∈ system.val.robot.errorLog, line.session = line.identity) ∧
            ∀ identity,
              FollowsProtocol (system.val.robot.engineHistory.callbacks identity) := by
  have inProtocol := inProtocol_of_reachable system.property
  refine ⟨?_, fun mode current lua noError => inProtocol.exists_engine current lua noError, ?_,
    inProtocol.kept.logged, inProtocol.kept.follows⟩
  · intro event null
    have safely := step_safely platform inProtocol event
    rw [null] at safely
    exact safely rfl
  · intro call member
    obtain ⟨same, -, loaded⟩ := inProtocol.kept.own call member
    exact ⟨same, loaded⟩

end TimedRobot

end RobotFirmware
