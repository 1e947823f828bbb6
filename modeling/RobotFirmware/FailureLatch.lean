import RobotFirmware.EngineProtocol

/-!
# Failed callbacks

A session whose engine fails should leave the engine alone, remember the error
and keep the robot standing.  `RobotMain::loadEngine` does not look at the
result of `newEngine->init()`, and this is the only way to lose a failure: the
steps of a run latch their failures exactly when no session in it has an
`init` that fails.
-/

namespace RobotFirmware

/-- The call failed, and its session should end there.  A `run` of the Teleop
mode is not protected, and nothing follows a `cleanup`. -/
def EngineCall.latches (call : EngineCall) : Bool :=
  call.failed && (call.method == .init || call.method == .prepare || call.method == .safeRun)

namespace EngineHistory

/-- No callback of an engine is invoked after one of them has failed. -/
def FailuresLast (history : EngineHistory) : Prop :=
  history.calls.Pairwise fun earlier later =>
    earlier.latches = true → later.identity = earlier.identity → later.invoked = false

/-- The current session has had a failure. -/
def SessionFailed (history : EngineHistory) : Prop :=
  history.sessions ∈ history.failedLoads ∨
    ∃ call ∈ history.calls, call.session = history.sessions ∧ call.latches = true

/-- Failures come last, and that of the current session is recorded. -/
structure Latched (history : EngineHistory) : Prop where
  failuresLast : history.FailuresLast
  recorded : history.SessionFailed → history.error = true

theorem Kept.not_sessionFailed_load {history : EngineHistory} (kept : history.Kept) :
    ¬ history.load.SessionFailed := by
  rintro (failed | ⟨call, member, same, -⟩)
  · exact kept.not_mem_failedLoads failed
  · obtain ⟨own, bound, -⟩ := kept.own call member
    change call.session = history.sessions + 1 at same
    omega

theorem Latched.call {history : EngineHistory} (kept : history.Kept) (latched : history.Latched)
    (noError : history.error = false) {method : EngineMethod} {failed : Bool}
    (checked : method = .init → failed = false) (invoked : Bool) (message : String) :
    (history.call history.sessions method invoked failed message).Latched := by
  have noFailure : ¬ history.SessionFailed := by
    intro sessionFailed
    rw [latched.recorded sessionFailed] at noError
    cases noError
  constructor
  · refine List.pairwise_append.mpr ⟨latched.failuresLast, by simp, ?_⟩
    intro earlier member later now latches same
    obtain rfl : later = ⟨history.sessions, history.sessions, method, invoked, failed⟩ := by
      simpa using now
    -- The earlier call would be a failure of the current session.
    obtain ⟨own, -, -⟩ := kept.own earlier member
    exact absurd (.inr ⟨earlier, member, own.trans same.symm, latches⟩) noFailure
  · rintro (lost | ⟨call, member, same, latches⟩)
    · exact absurd (.inl lost) noFailure
    · rcases List.mem_append.mp member with earlier | now
      · exact absurd (.inr ⟨call, earlier, same, latches⟩) noFailure
      · obtain rfl : call = ⟨history.sessions, history.sessions, method, invoked, failed⟩ := by
          simpa using now
        obtain ⟨hasFailed, saved⟩ := Bool.and_eq_true_iff.mp latches
        have notInit : method ≠ .init := by
          rintro rfl
          rw [checked rfl] at hasFailed
          cases hasFailed
        change failed = true at hasFailed
        cases method with
        | init => exact absurd rfl notInit
        | prepare => simp [EngineHistory.call, hasFailed]
        | safeRun => simp [EngineHistory.call, hasFailed]
        | run => cases saved
        | cleanup => cases saved

theorem Latched.failLoad {history : EngineHistory} (latched : history.Latched) :
    history.failLoad.Latched :=
  ⟨latched.failuresLast, fun _ => rfl⟩

theorem Latched.loads {history : EngineHistory} (kept : history.Kept) (latched : history.Latched)
    (invoked invoked' failed' : Bool) (message : String) :
    ((history.load.call (history.sessions + 1) .init invoked false "").call
      (history.sessions + 1) .prepare invoked' failed' message).Latched := by
  have begun : history.load.Latched :=
    ⟨latched.failuresLast, fun sessionFailed => absurd sessionFailed kept.not_sessionFailed_load⟩
  have afterInit : (history.load.call (history.sessions + 1) .init invoked false "").Latched :=
    begun.call kept.load rfl (fun _ => rfl) invoked ""
  exact afterInit.call (kept.load_call_init invoked false) rfl (by simp) invoked' message

/-- A session whose `init` fails loses the latch: `prepare` is called, and the
error is forgotten if that does not fail. -/
theorem not_latched_loads (history : EngineHistory) {invoked invoked' failed' : Bool}
    (message : String) (prepareRan : failed' = true → invoked' = true) :
    ¬ ((history.load.call (history.sessions + 1) .init invoked true "").call
      (history.sessions + 1) .prepare invoked' failed' message).Latched := by
  rintro ⟨failuresLast, recorded⟩
  cases failed' with
  | true =>
      have last := (List.pairwise_append.mp failuresLast).2.2
        ⟨history.sessions + 1, history.sessions + 1, .init, invoked, true⟩
        (by simp [EngineHistory.call, EngineHistory.load]) _ (List.mem_singleton.mpr rfl) rfl rfl
      simp [prepareRan rfl] at last
  | false =>
      have forgotten := recorded (.inr
        ⟨⟨history.sessions + 1, history.sessions + 1, .init, invoked, true⟩,
          by simp [EngineHistory.call, EngineHistory.load], rfl, rfl⟩)
      cases forgotten

theorem Latched.step {mode next : Option Mode} {slot : Slot} {history history' : EngineHistory}
    (inProtocol : InProtocol mode history) (latched : history.Latched)
    (scheduled : schedule mode slot = some next)
    (noInit : ∀ entered : Mode, entered.runsLua = true → slot ≠ .init entered)
    (step : Step slot history history') : history'.Latched := by
  cases step with
  | quiet => exact latched
  | loadFails lua => exact absurd rfl (noInit _ lua)
  | loads lua => exact absurd rfl (noInit _ lua)
  | runs lua isRun current noError invoked failed message =>
      obtain ⟨rfl, -⟩ := inProtocol.running_current scheduled (.inl rfl) lua noError current
      refine latched.call inProtocol.kept noError ?_ invoked message
      rintro rfl
      cases isRun
  | cleansUp lua current noError invoked failed message =>
      obtain ⟨rfl, -⟩ := inProtocol.running_current scheduled (.inr rfl) lua noError current
      exact latched.call inProtocol.kept noError (by simp) invoked message

end EngineHistory

/-- The bot file is loaded, and its `init` fails. -/
def SessionStart.initFails {K : Type*} (start : SessionStart K) : Bool :=
  match start.load with
  | .factory _ (some defines) => defines .init && start.init.error.isSome
  | _ => false

/-- The callback begins a session whose `init` fails. -/
def Event.InitFails {K τ π : Type*} : Event K τ π → Prop
  | .teleopInit start => start.initFails = true
  | .testInit start => start.initFails = true
  | _ => False

namespace RobotMain

open EngineHistory

variable {K τ π : Type*}

theorem initFails_eq (robot : RobotMain K τ) (start : SessionStart K) :
    start.initFails =
      (!(robot.newEngine start).haveError && (robot.newEngine start).fails .init start.init) := by
  unfold SessionStart.initFails newEngine
  cases start.load with
  | missing => simp [Engine.instantiate, Engine.fails]
  | invalid error => simp [Engine.instantiate, Engine.fails]
  | notFunction => simp [Engine.instantiate, Engine.fails]
  | factory calls defines =>
      cases defines <;> simp [Engine.instantiate, Engine.fails, Engine.haveError,
        EngineMethod.callback]
  | threw calls error => simp [Engine.instantiate, Engine.fails]

variable [Field K] [LinearOrder K] [FloorRing K]

theorem latched_luaInit_iff (robot : RobotMain K τ) (history : EngineHistory)
    {next : RobotMain K τ}
    (sameFail : history.failLoad = robot.engineHistory.failLoad)
    (sameLoad : history.load = robot.engineHistory.load) (kept : history.Kept)
    (latched : history.Latched) {start : SessionStart K}
    (returned : robot.luaInit start = .ok next) :
    next.engineHistory.Latched ↔ ¬ start.initFails = true := by
  have sessionsEq : history.sessions = robot.sessions :=
    Nat.succ.inj (congrArg EngineHistory.sessions sameLoad)
  rw [initFails_eq robot]
  cases haveError : (robot.newEngine start).haveError with
  | true =>
      obtain ⟨next', returned', historyEq⟩ := luaInit_of_failed haveError
      obtain rfl : next' = next := Except.ok.inj (returned'.symm.trans returned)
      rw [historyEq, ← sameFail]
      simpa using latched.failLoad
  | false =>
      obtain ⟨next', message, returned', historyEq⟩ := luaInit_of_loaded haveError
      obtain rfl : next' = next := Except.ok.inj (returned'.symm.trans returned)
      rw [historyEq, ← sameLoad, ← sessionsEq]
      cases fails : (robot.newEngine start).fails .init start.init with
      | true =>
          exact iff_of_false (not_latched_loads history message Engine.defines_of_fails) (by simp)
      | false => exact iff_of_true (latched.loads kept _ _ _ message) (by simp)

end RobotMain

namespace TimedRobot

open RobotMain Runs

variable {K τ π : Type*} [Field K] [LinearOrder K] [FloorRing K]

/-- After the callback failures come last and that of the current session is
recorded; and if the session had failed before a `Periodic`, that `Periodic`
stops the drivetrain. -/
structure FailureLatches (taken : TimedRobot K τ × Event K τ π × TimedRobot K τ) : Prop where
  latched : taken.2.2.robot.engineHistory.Latched
  stopped : ∀ mode, mode.runsLua = true → taken.2.1.slot = .periodic mode →
    taken.1.robot.engineHistory.SessionFailed →
      taken.2.2.robot.drivetrain.setPoint = ⟨0, 0⟩

theorem stopped_of_latched {platform : Platform K τ π} {before after : TimedRobot K τ}
    {event : Event K τ π} (latched : before.robot.engineHistory.Latched)
    (taken : before.step platform event = .ok after) {mode : Mode} (lua : mode.runsLua = true)
    (ticks : event.slot = .periodic mode)
    (sessionFailed : before.robot.engineHistory.SessionFailed) :
    after.robot.drivetrain.setPoint = ⟨0, 0⟩ := by
  have error : before.robot.luaErrorEncountered = true := latched.recorded sessionFailed
  have performed := (step_ok_iff.mp taken).2
  have luaTick : ∀ pad outcome, before.robot.luaPeriodic platform pad outcome = .ok after.robot →
      after.robot.drivetrain.setPoint = ⟨0, 0⟩ := by
    intro pad outcome returned
    rw [luaPeriodic_of_losesControl platform (.inr error)] at returned
    rw [← Except.ok.inj returned]
    rfl
  cases event with
  | teleopPeriodic pad outcome => exact luaTick pad outcome performed
  | testPeriodic pad outcome => exact luaTick pad outcome performed
  | disabledPeriodic =>
      cases ticks
      cases lua
  | autonomousPeriodic =>
      cases ticks
      cases lua
  | _ => cases ticks

theorem failureLatches_iff {platform : Platform K τ π} {before after : TimedRobot K τ}
    {event : Event K τ π} (inProtocol : before.InProtocol)
    (latched : before.robot.engineHistory.Latched)
    (taken : before.step platform event = .ok after) :
    FailureLatches (before, event, after) ↔ ¬ event.InitFails := by
  obtain ⟨scheduled, performed⟩ := step_ok_iff.mp taken
  have latchedOnly : FailureLatches (before, event, after) ↔ after.robot.engineHistory.Latched :=
    ⟨FailureLatches.latched, fun kept => ⟨kept, fun _ lua ticks sessionFailed =>
      stopped_of_latched latched taken lua ticks sessionFailed⟩⟩
  have insideSession (noInit : ∀ entered : Mode, entered.runsLua = true →
      event.slot ≠ .init entered) : after.robot.engineHistory.Latched := by
    have refines := step_refines platform inProtocol scheduled
    rw [performed] at refines
    exact latched.step inProtocol scheduled noInit refines
  rw [latchedOnly]
  cases event with
  | teleopInit start =>
      exact latched_luaInit_iff { before.robot with protectedLuaCalls := false }
        before.robot.engineHistory rfl rfl inProtocol.kept latched performed
  | testInit start =>
      exact latched_luaInit_iff
        { before.robot with protectedLuaCalls := true, luaErrorEncountered := false }
        before.robot.engineHistory rfl rfl inProtocol.kept latched performed
  | _ =>
      refine iff_of_true (insideSession ?_) id
      rintro _ lua slot
      cases slot
      all_goals cases lua

/-- **Failures latch.** In a run of the robot program, up to where it ends,
every callback latches the failures before it if and only if no session in it
has an `init` that fails. -/
theorem failures_latch_iff (platform : Platform K τ π) (config : Config K) (now : K)
    (reads : ModeReads τ) (events : List (Event K τ π)) :
    (∀ taken ∈ transitions (step platform) (boot platform config now reads) events,
        FailureLatches taken) ↔
      ∀ taken ∈ transitions (step platform) (boot platform config now reads) events,
        ¬ taken.2.1.InitFails := by
  refine forall_transitions_iff (step platform)
    (fun system => system.InProtocol ∧ system.robot.engineHistory.Latched) FailureLatches
    (fun taken => ¬ taken.2.1.InitFails) ?_ ?_ ⟨inProtocol_boot platform config now reads, ?_⟩
    events
  · rintro before event after ⟨inProtocol, latched⟩ taken
    exact failureLatches_iff inProtocol latched taken
  · rintro before event after ⟨inProtocol, latched⟩ taken holds
    have safely := step_safely platform inProtocol event
    rw [taken] at safely
    exact ⟨safely, holds.latched⟩
  · rw [boot, engineHistory_create]
    exact ⟨.nil, by simp [EngineHistory.SessionFailed]⟩

/-- An `init` that raises an error, with nothing after it that does. -/
theorem failure_lost_after_init :
    ¬ ∀ (platform : Platform Rat Unit Unit) (config : Config Rat) (now : Rat)
        (reads : ModeReads Unit) (events : List (Event Rat Unit Unit)),
        ∀ taken ∈ transitions (step platform) (boot platform config now reads) events,
          FailureLatches taken := by
  intro always
  have latches := always .bench .bench 0 (.bench (.boolean true))
    [.teleopInit { SessionStart.bench with init := ⟨[], some ⟨"attempt to index nil", by decide⟩⟩ }]
    _ (.head _)
  have forgotten := latches.latched.recorded (.inr ⟨_, .head _, rfl, rfl⟩)
  cases forgotten

end TimedRobot

end RobotFirmware
