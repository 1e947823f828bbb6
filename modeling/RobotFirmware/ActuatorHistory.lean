import RobotFirmware.IdleOutputs
import RobotFirmware.LuaErrors

/-!
# The calls of a run

Every callback makes a certain list of calls to the actuators, some of its own
and some of Lua.  The actuators after a run have performed these lists one after
the other.  So a run has the effects that are known for a sequence of calls to
the shooter, to the drivetrain or to the lifter.
-/

namespace RobotFirmware

namespace Lifter

variable {K : Type*} [Field K]

/-- The voltage that a call sends to the arms, if any. -/
def sentVolts : ActuatorCall K → Option K
  | .bound .moveUp => some (0.3 * 12.0)
  | .bound .moveDown => some (0.3 * -12.0)
  | .bound .stopLifter => some 0
  | _ => none

/-- The last voltage that some calls send to the arms. -/
def lastVolts (calls : List (ActuatorCall K)) : Option K :=
  (calls.filterMap sentVolts).getLast?

end Lifter

namespace Shooter

variable {K : Type*}

/-- The calls of the shooter that a call makes. -/
def callsOf : ActuatorCall K → List (Call K)
  | .bound .intake => [.intake]
  | .bound (.shoot amount) => [.setShootLevel amount, .shoot]
  | .bound .stopShooter => [.stop]
  | .shooter call => [call]
  | _ => []

/-- The call takes a shot from the shooter. -/
def Call.Interrupts : Call K → Prop
  | .stop => True
  | .reset _ => True
  | _ => False

variable [Field K] [LinearOrder K] [FloorRing K]

theorem serves_perform {shooter : Shooter K} (shooting : shooter.state = .shooting)
    {call : Call K} (kept : ¬ call.Interrupts) (notProcess : call.isProcess = false) :
    (shooter.perform call).state = .shooting ∧ (shooter.perform call).tick = shooter.tick := by
  cases call with
  | intake => simp [perform, intake, shooting]
  | shoot => simp [perform, shoot, shooting]
  | setShootLevel level => simp [perform, setShootLevel, shooting]
  | process => cases notProcess
  | stop => exact absurd trivial kept
  | reset config => exact absurd trivial kept

/-- A shot that is not interrupted is served by `process` and by nothing else. -/
theorem serves_foldl_perform {shooter : Shooter K} (shooting : shooter.state = .shooting)
    {calls : List (Call K)} (kept : ∀ call ∈ calls, ¬ call.Interrupts)
    (remains : (calls.countP Call.isProcess : Int) < shooter.tick) :
    (calls.foldl perform shooter).state = .shooting ∧
      (calls.foldl perform shooter).tick = shooter.tick - calls.countP Call.isProcess := by
  induction calls generalizing shooter with
  | nil => simpa using shooting
  | cons call rest ih =>
      obtain ⟨here, later⟩ := List.forall_mem_cons.mp kept
      rw [List.foldl_cons]
      cases served : call.isProcess with
      | false =>
          obtain ⟨state, tick⟩ := serves_perform shooting here served
          rw [List.countP_cons_of_neg (by simp [served])] at remains ⊢
          rw [← tick] at remains ⊢
          exact ih state later remains
      | true =>
          obtain rfl : call = .process := by cases call <;> simp [Call.isProcess] at served ⊢
          rw [List.countP_cons_of_pos served] at remains ⊢
          have processed := process_shooting shooting
          rw [if_neg (by omega)] at processed
          have left : shooter.process.tick = shooter.tick - 1 := by rw [processed]
          obtain ⟨state, tick⟩ := ih (show shooter.process.state = .shooting by rw [processed])
            later (by omega)
          exact ⟨state, by rw [perform, tick, left]; omega⟩

end Shooter

namespace Actuators

open Lifter

variable {K : Type*} [Field K] [LinearOrder K] [FloorRing K]

theorem performAll_eq_foldl (actuators : Actuators K) (calls : List (BindingCall K)) :
    actuators.performAll calls = (calls.map .bound).foldl performCall actuators :=
  (List.foldl_map (f := ActuatorCall.bound) (g := performCall)).symm

theorem lifter_foldl_performCall (actuators : Actuators K) (calls : List (ActuatorCall K)) :
    (calls.foldl performCall actuators).lifter =
      (lastVolts calls).elim actuators.lifter setVoltage := by
  induction calls using List.reverseRecOn with
  | nil => rfl
  | append_singleton calls call ih =>
      rw [List.foldl_append, List.foldl_cons, List.foldl_nil, lastVolts, List.filterMap_append]
      cases call with
      | bound call =>
          cases call <;>
            simp [performCall, perform, sentVolts, moveUp, moveDown, stop, lastVolts, ih]
      | drive xSpeed rot => simpa [performCall, sentVolts, lastVolts] using ih
      | shooter call => simpa [performCall, sentVolts, lastVolts] using ih

theorem shooter_foldl_performCall (actuators : Actuators K) (calls : List (ActuatorCall K)) :
    (calls.foldl performCall actuators).shooter =
      (calls.flatMap Shooter.callsOf).foldl Shooter.perform actuators.shooter := by
  induction calls generalizing actuators with
  | nil => rfl
  | cons call calls ih =>
      rw [List.foldl_cons, ih, List.flatMap_cons, List.foldl_append]
      congr 1
      cases call with
      | bound call => cases call <;> rfl
      | _ => rfl

end Actuators

/-- The callback calls `shooter.process()`. -/
def Event.processesShooter {K τ π : Type*} : Event K τ π → Bool
  | .autonomousPeriodic _ => true
  | .teleopPeriodic _ _ => true
  | .testPeriodic _ _ => true
  | _ => false

namespace RobotMain

open Actuators Shooter

variable {K τ π : Type*}

/-- The calls that a method of an engine makes. -/
def methodCalls (engine : Engine) (method : EngineMethod) (outcome : LuaOutcome K) :
    List (ActuatorCall K) :=
  if engine.defines method.callback then outcome.calls.map .bound else []

/-- The calls that a method of the current engine makes. -/
def currentCalls (robot : RobotMain K τ) (method : EngineMethod) (outcome : LuaOutcome K) :
    List (ActuatorCall K) :=
  robot.engine.elim [] fun engine => methodCalls engine method outcome

/-- The calls of `luaInit`.  The file makes its own even if it turns out to be
no bot program. -/
def startCalls (robot : RobotMain K τ) (start : SessionStart K) : List (ActuatorCall K) :=
  let engine := robot.newEngine start
  start.load.calls.map .bound ++
    if engine.haveError then
      []
    else
      methodCalls engine .init start.init ++
        .shooter (.reset start.config) :: methodCalls engine .prepare start.prepare

/-- The calls of `luaPeriodic`. -/
def tickCalls [Zero K] (robot : RobotMain K τ) (pad : GamepadReading K)
    (outcome : LuaOutcome K) : List (ActuatorCall K) :=
  (if !pad.connected || robot.luaErrorEncountered then [.drive 0 0]
    else robot.currentCalls .run outcome) ++ [.shooter .process]

/-- The calls of `luaExit`. -/
def exitCalls (robot : RobotMain K τ) (outcome : LuaOutcome K) : List (ActuatorCall K) :=
  if robot.luaErrorEncountered then [] else robot.currentCalls .cleanup outcome

theorem countP_bound (calls : List (BindingCall K)) :
    ((calls.map ActuatorCall.bound).flatMap callsOf).countP Call.isProcess = 0 := by
  induction calls with
  | nil => rfl
  | cons call calls ih =>
      rw [List.map_cons, List.flatMap_cons, List.countP_append, ih]
      cases call <;> rfl

theorem countP_methodCalls (engine : Engine) (method : EngineMethod) (outcome : LuaOutcome K) :
    ((methodCalls engine method outcome).flatMap callsOf).countP Call.isProcess = 0 := by
  rw [methodCalls]
  split
  · exact countP_bound _
  · rfl

theorem countP_currentCalls (robot : RobotMain K τ) (method : EngineMethod)
    (outcome : LuaOutcome K) :
    ((robot.currentCalls method outcome).flatMap callsOf).countP Call.isProcess = 0 := by
  rw [currentCalls]
  cases robot.engine with
  | none => rfl
  | some engine => exact countP_methodCalls engine method outcome

theorem countP_startCalls (robot : RobotMain K τ) (start : SessionStart K) :
    ((robot.startCalls start).flatMap callsOf).countP Call.isProcess = 0 := by
  simp only [startCalls, List.flatMap_append, List.countP_append, countP_bound, Nat.zero_add]
  split
  · rfl
  · rw [List.flatMap_append, List.countP_append, countP_methodCalls, List.flatMap_cons,
      List.countP_append, countP_methodCalls]
    rfl

variable [Field K] [LinearOrder K]

/-- The calls of `AutonomousPeriodic`. -/
def autonomousCalls (platform : Platform K τ π) (robot : RobotMain K τ)
    (tick : AutoTick K π) : List (ActuatorCall K) :=
  let setPoint :=
    if robot.autonomousShoot.shooter.isShooting then
      ⟨0, 0⟩
    else
      moveSetPoint platform robot.autoInfo (tick.now - robot.motionStart tick) tick.pose
  (if robot.hasShot then [] else [.shooter .shoot]) ++
    [.shooter .process, .drive setPoint.xSpeed setPoint.rot]

/-- The calls to the actuators in a callback. -/
def madeCalls (platform : Platform K τ π) (robot : RobotMain K τ) :
    Event K τ π → List (ActuatorCall K)
  | .disabledPeriodic => [.drive 0 0]
  | .autonomousPeriodic tick => robot.autonomousCalls platform tick
  | .teleopInit start => robot.startCalls start
  | .testInit start => robot.startCalls start
  | .teleopPeriodic pad outcome => robot.tickCalls pad outcome
  | .testPeriodic pad outcome => robot.tickCalls pad outcome
  | .teleopExit outcome => robot.exitCalls outcome
  | .testExit outcome => robot.exitCalls outcome
  | _ => []

/-- The ticks of every mode but Disabled process the shooter once, after all
that they ask of it, and nothing else does. -/
theorem callsOf_madeCalls (platform : Platform K τ π) (robot : RobotMain K τ)
    (event : Event K τ π) :
    ∃ asked : List (Call K), asked.countP Call.isProcess = 0 ∧
      (robot.madeCalls platform event).flatMap callsOf =
        asked ++ if event.processesShooter then [.process] else [] := by
  have ofTick (pad : GamepadReading K) (outcome : LuaOutcome K) :
      ∃ asked : List (Call K), asked.countP Call.isProcess = 0 ∧
        (robot.tickCalls pad outcome).flatMap callsOf = asked ++ [.process] := by
    rw [tickCalls, List.flatMap_append]
    split
    · exact ⟨[], rfl, rfl⟩
    · exact ⟨_, robot.countP_currentCalls .run outcome, rfl⟩
  have ofExit (outcome : LuaOutcome K) :
      ((robot.exitCalls outcome).flatMap callsOf).countP Call.isProcess = 0 := by
    rw [exitCalls]
    split
    · rfl
    · exact robot.countP_currentCalls .cleanup outcome
  cases event with
  | autonomousPeriodic tick =>
      simp only [madeCalls, autonomousCalls]
      cases robot.hasShot with
      | true => exact ⟨[], rfl, rfl⟩
      | false => exact ⟨[.shoot], rfl, rfl⟩
  | teleopInit start => exact ⟨_, robot.countP_startCalls start, (List.append_nil _).symm⟩
  | testInit start => exact ⟨_, robot.countP_startCalls start, (List.append_nil _).symm⟩
  | teleopPeriodic pad outcome => exact ofTick pad outcome
  | testPeriodic pad outcome => exact ofTick pad outcome
  | teleopExit outcome => exact ⟨_, ofExit outcome, (List.append_nil _).symm⟩
  | testExit outcome => exact ⟨_, ofExit outcome, (List.append_nil _).symm⟩
  | _ => exact ⟨[], rfl, rfl⟩

variable [FloorRing K]

theorem toActuators_invoke (robot : RobotMain K τ) (engine : Engine) (method : EngineMethod)
    (outcome : LuaOutcome K) :
    (robot.invoke engine method outcome).toActuators =
      (methodCalls engine method outcome).foldl performCall robot.toActuators := by
  simp only [invoke, methodCalls]
  split
  · exact performAll_eq_foldl _ _
  · rfl

theorem toActuators_checkedCall {robot next : RobotMain K τ} {method : EngineMethod}
    {outcome : LuaOutcome K} (returned : robot.checkedCall method outcome = .ok next) :
    next.toActuators =
      (robot.currentCalls method outcome).foldl performCall robot.toActuators := by
  obtain ⟨engine, current, rfl⟩ := eq_invoke_of_checkedCall returned
  rw [currentCalls, current]
  exact toActuators_invoke robot engine method outcome

theorem toActuators_runEngine {platform : Platform K τ π} {robot next : RobotMain K τ}
    {outcome : LuaOutcome K} (returned : robot.runEngine platform outcome = .ok next) :
    next.toActuators = (robot.currentCalls .run outcome).foldl performCall robot.toActuators := by
  obtain ⟨engine, current, rfl⟩ := eq_invoke_of_runEngine returned
  rw [currentCalls, current]
  exact toActuators_invoke robot engine .run outcome

theorem toActuators_luaPeriodic {platform : Platform K τ π} {robot next : RobotMain K τ}
    {pad : GamepadReading K} {outcome : LuaOutcome K}
    (returned : robot.luaPeriodic platform pad outcome = .ok next) :
    next.toActuators = (robot.tickCalls pad outcome).foldl performCall robot.toActuators := by
  rw [tickCalls, List.foldl_append]
  obtain ⟨lost, rfl⟩ | ⟨control, after, rfl, ran⟩ := luaPeriodic_cases returned
  · rw [losesControl_iff.mp lost]
    rfl
  · have called : after.toActuators =
        (robot.currentCalls .run outcome).foldl performCall robot.toActuators := by
      obtain ⟨-, ran⟩ | ⟨-, ran⟩ := ran
      · have called := toActuators_checkedCall ran
        exact called
      · have called := toActuators_runEngine ran
        exact called
    rw [Bool.eq_false_iff.mpr (mt losesControl_iff.mpr control), if_neg Bool.false_ne_true,
      ← called]
    rfl

theorem toActuators_luaExit {robot next : RobotMain K τ} {outcome : LuaOutcome K}
    (returned : robot.luaExit outcome = .ok next) :
    next.toActuators = (robot.exitCalls outcome).foldl performCall robot.toActuators := by
  cases error : robot.luaErrorEncountered with
  | true =>
      obtain rfl : robot = next := by simpa [luaExit, error] using returned
      simp [exitCalls, error]
  | false =>
      simp only [luaExit, error, Bool.not_false, if_true] at returned
      simpa [exitCalls, error] using toActuators_checkedCall returned

theorem toActuators_luaInit {robot next : RobotMain K τ} {start : SessionStart K}
    (returned : robot.luaInit start = .ok next) :
    next.toActuators = (robot.startCalls start).foldl performCall robot.toActuators := by
  have loading := performAll_eq_foldl robot.toActuators start.load.calls
  rw [startCalls, List.foldl_append, ← loading]
  cases failed : (robot.newEngine start).haveError with
  | true =>
      unfold newEngine at failed
      obtain rfl := by simpa [luaInit, safeLoadEngine, loadEngine, failed] using returned
      rfl
  | false =>
      obtain ⟨begun, begunEq, current, called⟩ :
          ∃ begun : RobotMain K τ, robot.luaInit start = begun.checkedCall .prepare start.prepare ∧
            begun.engine = some ((robot.newEngine start).protectedCall .init start.init) ∧
            begun.toActuators =
              performCall ((methodCalls (robot.newEngine start) .init start.init).foldl performCall
                (robot.toActuators.performAll start.load.calls)) (.shooter (.reset start.config)) := by
        unfold newEngine at failed ⊢
        refine ⟨{ robot.safeLoadEngine start with
          shooter := (robot.safeLoadEngine start).shooter.reset start.config }, ?_, ?_, ?_⟩
        · simp [luaInit, luaPrepare, safeLoadEngine, loadEngine, failed, invoke]
        · simp [safeLoadEngine, loadEngine, failed, invoke]
        · simp only [safeLoadEngine, loadEngine, failed, Bool.false_eq_true, if_false]
          rw [toActuators_invoke]
          rfl
      rw [begunEq] at returned
      rw [toActuators_checkedCall returned, called, currentCalls, current, if_neg (by simp),
        List.foldl_append]
      simp [methodCalls]

theorem toActuators_autonomousPeriodic (platform : Platform K τ π) (robot : RobotMain K τ)
    (tick : AutoTick K π) :
    (robot.autonomousPeriodic platform tick).toActuators =
      (robot.autonomousCalls platform tick).foldl performCall robot.toActuators := by
  have shot : (if robot.hasShot then [] else [ActuatorCall.shooter .shoot]).foldl performCall
      robot.toActuators = { robot.toActuators with shooter := robot.pendingShooter } := by
    cases hasShot : robot.hasShot <;> simp [pendingShooter, hasShot, performCall, Shooter.perform]
  rw [autonomousCalls, List.foldl_append, shot]
  by_cases shooting : robot.autonomousShoot.shooter.state = .shooting
  · rw [autonomousPeriodic_of_shooting platform tick shooting,
      if_pos (by simpa [Shooter.isShooting] using shooting), autonomousShoot_eq]
    rfl
  · rw [autonomousPeriodic_of_not_shooting platform tick shooting,
      if_neg (by simpa [Shooter.isShooting] using shooting), autonomousMove_eq, autonomousShoot_eq]
    rfl

theorem toActuators_perform {platform : Platform K τ π} {robot next : RobotMain K τ}
    {event : Event K τ π} (returned : robot.perform platform event = .ok next) :
    next.toActuators =
      (robot.madeCalls platform event).foldl performCall robot.toActuators := by
  cases event with
  | autonomousInit reads now =>
      obtain ⟨_, _, _, reloaded⟩ := robot.reloadTrajectory_frame platform reads
      rw [← Except.ok.inj returned, autonomousInit, reloaded]
      rfl
  | autonomousPeriodic tick =>
      rw [← Except.ok.inj returned]
      exact robot.toActuators_autonomousPeriodic platform tick
  | teleopInit start =>
      have called := toActuators_luaInit returned
      exact called
  | testInit start =>
      have called := toActuators_luaInit returned
      exact called
  | teleopPeriodic pad outcome => exact toActuators_luaPeriodic returned
  | testPeriodic pad outcome => exact toActuators_luaPeriodic returned
  | teleopExit outcome => exact toActuators_luaExit returned
  | testExit outcome => exact toActuators_luaExit returned
  | _ =>
      rw [← Except.ok.inj returned]
      rfl

end RobotMain

namespace TimedRobot

open Actuators Lifter

variable {K τ π : Type*} [Field K] [LinearOrder K] [FloorRing K]

/-- The calls to the actuators in a run, in their order. -/
def callsOfRun (platform : Platform K τ π) (system : TimedRobot K τ) (events : List (Event K τ π)) :
    List (ActuatorCall K) :=
  (Runs.transitions (step platform) system events).flatMap fun taken =>
    taken.1.robot.madeCalls platform taken.2.1

theorem callsOfRun_cons {platform : Platform K τ π} {system next : TimedRobot K τ}
    {event : Event K τ π} (taken : step platform system event = .ok next)
    (events : List (Event K τ π)) :
    callsOfRun platform system (event :: events) =
      system.robot.madeCalls platform event ++ callsOfRun platform next events := by
  rw [callsOfRun, Runs.transitions, taken]
  rfl

theorem callsOfRun_append {platform : Platform K τ π} {system middle : TimedRobot K τ}
    {first : List (Event K τ π)} (ran : run platform system first = .ok middle)
    (second : List (Event K τ π)) :
    callsOfRun platform system (first ++ second) =
      callsOfRun platform system first ++ callsOfRun platform middle second := by
  induction first generalizing system with
  | nil =>
      cases ran
      rfl
  | cons event first ih =>
      obtain ⟨next, taken, remaining⟩ := Runs.foldlM_cons_ok.mp ran
      rw [List.cons_append, callsOfRun_cons taken, callsOfRun_cons taken, ih remaining,
        List.append_assoc]

/-- After a run the actuators are as the calls of its callbacks leave them: those
of the functions of bots that really ran, and those of the robot program around
them. -/
theorem toActuators_run {platform : Platform K τ π} {system last : TimedRobot K τ}
    {events : List (Event K τ π)} (ran : run platform system events = .ok last) :
    last.robot.toActuators =
      (callsOfRun platform system events).foldl performCall system.robot.toActuators :=
  Runs.fold_of_run (step platform) (fun _ => True) (fun system => system.robot.toActuators)
    performCall (fun system event => system.robot.madeCalls platform event)
    (fun _ _ _ _ taken => ⟨trivial, RobotMain.toActuators_perform (step_ok_iff.mp taken).2⟩)
    trivial ran

theorem countP_callsOfRun {platform : Platform K τ π} {system last : TimedRobot K τ}
    {events : List (Event K τ π)} (ran : run platform system events = .ok last) :
    ((callsOfRun platform system events).flatMap Shooter.callsOf).countP
        Shooter.Call.isProcess =
      events.countP Event.processesShooter := by
  induction events generalizing system with
  | nil => rfl
  | cons event events ih =>
      obtain ⟨next, taken, remaining⟩ := Runs.foldlM_cons_ok.mp ran
      obtain ⟨asked, noProcess, calls⟩ := system.robot.callsOf_madeCalls platform event
      rw [callsOfRun_cons taken, List.flatMap_append, List.countP_append, ih remaining, calls,
        List.countP_append, noProcess, List.countP_cons, Nat.zero_add, Nat.add_comm]
      cases event.processesShooter <;> rfl

/-- **The lifter.** After every run both arms have the voltage of the last call
for the lifter that a bot program has made, or none if there was no such call.
Nothing else sends them anything: no error, no other mode and not the end of a
session. -/
theorem lifter_of_run (platform : Platform K τ π) (config : Config K) (now : K)
    (reads : ModeReads τ) (events : List (Event K τ π)) {last : TimedRobot K τ}
    (ran : run platform (boot platform config now reads) events = .ok last) :
    last.robot.lifter =
      .setVoltage ((lastVolts
        (callsOfRun platform (boot platform config now reads) events)).getD 0) := by
  have final (volts : Option K) :
      volts.elim (.setVoltage 0) setVoltage = .setVoltage (volts.getD 0) := by
    cases volts <;> rfl
  rw [toActuators_run ran, lifter_foldl_performCall, boot, RobotMain.toActuators_create]
  exact final _

/-- The arms still move in Autonomous if Teleop has ended while they did. -/
theorem lifter_of_run_left_moving :
    ∃ last, run Platform.bench (boot .bench .bench 0 (.bench (.boolean true)))
        [.teleopInit .bench, .teleopPeriodic (.bench true) ⟨[.stopLifter, .moveUp], none⟩,
          .teleopExit ⟨[], none⟩, .disabledInit, .disabledPeriodic, .disabledExit,
          .autonomousInit (.bench (.boolean false)) 1] = .ok last ∧
      last.robot.lifter = .setVoltage (0.3 * 12.0) := by
  obtain ⟨last, ran⟩ : ∃ last, run Platform.bench (boot .bench .bench 0 (.bench (.boolean true)))
      [.teleopInit .bench, .teleopPeriodic (.bench true) ⟨[.stopLifter, .moveUp], none⟩,
        .teleopExit ⟨[], none⟩, .disabledInit, .disabledPeriodic, .disabledExit,
        .autonomousInit (.bench (.boolean false)) 1] = .ok last := ⟨_, rfl⟩
  exact ⟨last, ran, lifter_of_run .bench .bench 0 (.bench (.boolean true)) _ ran⟩

theorem shooting_run {platform : Platform K τ π} {system last : TimedRobot K τ}
    {events : List (Event K τ π)} (ran : run platform system events = .ok last)
    (shooting : system.robot.shooter.state = .shooting)
    (kept : ∀ call ∈ (callsOfRun platform system events).flatMap Shooter.callsOf,
      ¬ call.Interrupts)
    (remains : (events.countP Event.processesShooter : Int) < system.robot.shooter.tick) :
    last.robot.shooter.state = .shooting ∧
      last.robot.shooter.tick =
        system.robot.shooter.tick - events.countP Event.processesShooter := by
  rw [← countP_callsOfRun ran] at remains ⊢
  rw [toActuators_run ran, shooter_foldl_performCall]
  exact Shooter.serves_foldl_perform shooting kept remains

/-- **A shot under way.** In a run in which Lua does not stop the shooter and no
bot is loaded, a shot that has begun is served by the ticks of Autonomous,
Teleop and Test alone.  Before its number of them it is under way, however the
modes follow each other, whatever else Lua calls and whether or not there are
errors or a controller; while the robot is disabled it waits.  The last of these
ticks ends it. -/
theorem shot_under_way (platform : Platform K τ π) {system last : TimedRobot K τ}
    {events : List (Event K τ π)} (ran : run platform system events = .ok last)
    (shooting : system.robot.shooter.state = .shooting)
    (kept : ∀ call ∈ (callsOfRun platform system events).flatMap Shooter.callsOf,
      ¬ call.Interrupts) :
    ((events.countP Event.processesShooter : Int) < system.robot.shooter.tick →
        last.robot.shooter.state = .shooting ∧
          last.robot.shooter.tick =
            system.robot.shooter.tick - events.countP Event.processesShooter) ∧
      ((events.countP Event.processesShooter : Int) = system.robot.shooter.tick →
        ∀ earlier event, events = earlier ++ [event] → event.processesShooter = true →
          last.robot.shooter.state = .idle) := by
  refine ⟨shooting_run ran shooting kept, ?_⟩
  rintro served earlier event rfl processes
  obtain ⟨before, ranBefore, taken⟩ := Runs.foldlM_append_ok.mp ran
  rw [callsOfRun_append ranBefore, List.flatMap_append, List.forall_mem_append] at kept
  obtain ⟨keptBefore, keptLast⟩ := kept
  rw [List.countP_append, List.countP_singleton, if_pos processes] at served
  obtain ⟨stillShooting, left⟩ := shooting_run ranBefore shooting keptBefore (by omega)
  -- The last tick may ask for something before it serves the shot.
  obtain ⟨asked, noProcess, calls⟩ := before.robot.callsOf_madeCalls platform event
  rw [processes, if_pos rfl] at calls
  have called : callsOfRun platform before [event] = before.robot.madeCalls platform event := by
    obtain ⟨next, taken, -⟩ := Runs.foldlM_cons_ok.mp taken
    simp [callsOfRun, Runs.transitions, taken]
  rw [called, calls, List.forall_mem_append] at keptLast
  obtain ⟨asking, one⟩ := Shooter.serves_foldl_perform stillShooting keptLast.1 (by omega)
  rw [toActuators_run taken, shooter_foldl_performCall, called, calls, List.foldl_append,
    List.foldl_cons, List.foldl_nil, Shooter.perform, Shooter.process_shooting asking,
    if_pos (by omega)]

/-- A shot of two ticks, of which the second comes in the next session. -/
theorem shot_under_way_in_next_session :
    let system : TimedRobot Rat Unit :=
      ⟨{ RobotMain.create Platform.bench .bench 0 (.bench (.boolean true)) with
        shooter := (Shooter.create .bench).shoot }, none⟩
    ∃ last, run Platform.bench system
        [.autonomousInit (.bench (.boolean false)) 0, .autonomousPeriodic ⟨0, 0, ()⟩,
          .autonomousExit, .disabledInit, .disabledPeriodic, .disabledExit,
          .autonomousInit (.bench (.boolean false)) 1, .autonomousPeriodic ⟨1, 1, ()⟩] =
          .ok last ∧
      last.robot.shooter.state = .idle := by
  intro system
  obtain ⟨last, ran⟩ : ∃ last, run Platform.bench system
      [.autonomousInit (.bench (.boolean false)) 0, .autonomousPeriodic ⟨0, 0, ()⟩,
        .autonomousExit, .disabledInit, .disabledPeriodic, .disabledExit,
        .autonomousInit (.bench (.boolean false)) 1, .autonomousPeriodic ⟨1, 1, ()⟩] =
      .ok last := ⟨_, rfl⟩
  have noInterrupt : ∀ call ∈ [(.process : Shooter.Call Rat), .process], ¬ call.Interrupts := by
    simp [Shooter.Call.Interrupts]
  exact ⟨last, ran, (shot_under_way Platform.bench ran rfl noInterrupt).2 (by decide +kernel)
    [.autonomousInit (.bench (.boolean false)) 0, .autonomousPeriodic ⟨0, 0, ()⟩,
      .autonomousExit, .disabledInit, .disabledPeriodic, .disabledExit,
      .autonomousInit (.bench (.boolean false)) 1] (.autonomousPeriodic ⟨1, 1, ()⟩) rfl rfl⟩

end TimedRobot

end RobotFirmware
