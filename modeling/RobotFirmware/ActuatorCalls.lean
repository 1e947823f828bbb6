import RobotFirmware.EngineProtocol
import RobotFirmware.NormalisedDrive

/-!
# The actuators inside the robot

The robot program acts on its shooter, its drivetrain and its lifter only by
calls: those of the Lua bindings, and a few of its own.  A callback makes some,
in some order, and so does a whole run.  What the calls keep is therefore kept
by every run.
-/

namespace RobotFirmware

namespace Shooter

variable {K : Type*} [Field K] [LinearOrder K] [FloorRing K]

/-- Some calls lead from the first shooter to the last. -/
def Reaches (first last : Shooter K) : Prop :=
  ∃ calls : List (Call K), last = calls.foldl perform first

theorem Reaches.refl (shooter : Shooter K) : Reaches shooter shooter :=
  ⟨[], rfl⟩

theorem Reaches.trans {first second third : Shooter K} (before : Reaches first second)
    (after : Reaches second third) : Reaches first third := by
  obtain ⟨calls, rfl⟩ := before
  obtain ⟨calls', rfl⟩ := after
  exact ⟨calls ++ calls', List.foldl_append.symm⟩

theorem reaches_perform (shooter : Shooter K) (call : Call K) :
    Reaches shooter (shooter.perform call) :=
  ⟨[call], rfl⟩

theorem Reaches.invariant {first last : Shooter K} (reaches : Reaches first last)
    (property : Shooter K → Prop)
    (preserved : ∀ shooter call, property shooter → property (shooter.perform call))
    (start : property first) : property last := by
  obtain ⟨calls, rfl⟩ := reaches
  exact (Runs.invariant_of_steps perform property (fun _ _ => True)
    (fun shooter call holds _ => preserved shooter call holds) start fun _ _ => trivial).1

end Shooter

/-- The calls that act on the actuators: the bindings, and what the robot
program does itself. -/
inductive ActuatorCall (K : Type*)
  | bound (call : BindingCall K)
  | drive (xSpeed rot : K)
  | shooter (call : Shooter.Call K)

/-- The call is one of the program's own, or a binding call that Lua makes. -/
def ActuatorCall.Made {K : Type*} (lua : BindingCall K → Prop) : ActuatorCall K → Prop
  | .bound call => lua call
  | _ => True

namespace Actuators

variable {K : Type*} [Field K] [LinearOrder K] [FloorRing K]

def performCall (actuators : Actuators K) : ActuatorCall K → Actuators K
  | .bound call => actuators.perform call
  | .drive xSpeed rot => { actuators with drivetrain := actuators.drivetrain.drive xSpeed rot }
  | .shooter call => { actuators with shooter := actuators.shooter.perform call }

/-- Some calls lead from the first actuators to the last, and Lua makes the
binding calls among them. -/
def Reaches (lua : BindingCall K → Prop) (first last : Actuators K) : Prop :=
  ∃ calls : List (ActuatorCall K),
    (∀ call ∈ calls, call.Made lua) ∧ last = calls.foldl performCall first

section Reaches

variable {lua : BindingCall K → Prop} {first second last : Actuators K}

theorem Reaches.refl (actuators : Actuators K) : Reaches lua actuators actuators :=
  ⟨[], by simp, rfl⟩

theorem Reaches.trans (before : Reaches lua first second) (after : Reaches lua second last) :
    Reaches lua first last := by
  obtain ⟨calls, made, rfl⟩ := before
  obtain ⟨calls', made', rfl⟩ := after
  exact ⟨calls ++ calls', List.forall_mem_append.mpr ⟨made, made'⟩, List.foldl_append.symm⟩

theorem reaches_performCall (actuators : Actuators K) (call : ActuatorCall K)
    (made : call.Made lua) : Reaches lua actuators (actuators.performCall call) :=
  ⟨[call], by simpa using made, rfl⟩

theorem reaches_drive (actuators : Actuators K) (xSpeed rot : K) :
    Reaches lua actuators
      { actuators with drivetrain := actuators.drivetrain.drive xSpeed rot } :=
  reaches_performCall actuators (.drive xSpeed rot) trivial

theorem reaches_shooter (actuators : Actuators K) (call : Shooter.Call K) :
    Reaches lua actuators { actuators with shooter := actuators.shooter.perform call } :=
  reaches_performCall actuators (.shooter call) trivial

theorem reaches_performAll (actuators : Actuators K) {calls : List (BindingCall K)}
    (made : ∀ call ∈ calls, lua call) : Reaches lua actuators (actuators.performAll calls) := by
  induction calls generalizing actuators with
  | nil => exact .refl _
  | cons call calls ih =>
      obtain ⟨here, rest⟩ := List.forall_mem_cons.mp made
      exact (reaches_performCall actuators (.bound call) here).trans
        (ih (actuators.perform call) rest)

/-- What the program's own calls and the calls of Lua keep. -/
theorem Reaches.invariant (reaches : Reaches lua first last) (property : Actuators K → Prop)
    (preserved : ∀ actuators call, ActuatorCall.Made lua call → property actuators →
      property (actuators.performCall call))
    (start : property first) : property last := by
  obtain ⟨calls, made, rfl⟩ := reaches
  induction calls generalizing first with
  | nil => exact start
  | cons call calls ih =>
      obtain ⟨here, rest⟩ := List.forall_mem_cons.mp made
      exact ih (preserved first call here start) rest

theorem Reaches.mono {wider : BindingCall K → Prop} (reaches : Reaches lua first last)
    (wide : ∀ call, lua call → wider call) : Reaches wider first last := by
  obtain ⟨calls, made, rfl⟩ := reaches
  refine ⟨calls, fun call member => ?_, rfl⟩
  cases call with
  | bound call => exact wide call (made _ member)
  | _ => trivial

theorem Reaches.shooter (reaches : Reaches lua first last) :
    Shooter.Reaches first.shooter last.shooter := by
  refine reaches.invariant (fun actuators => Shooter.Reaches first.shooter actuators.shooter) ?_
    (.refl _)
  intro actuators call _ before
  apply before.trans
  cases call with
  | shooter call => exact Shooter.reaches_perform _ call
  | drive xSpeed rot => exact .refl _
  | bound call =>
      cases call with
      | intake => exact Shooter.reaches_perform _ .intake
      | shoot amount =>
          exact (Shooter.reaches_perform _ (.setShootLevel amount)).trans
            (Shooter.reaches_perform _ .shoot)
      | stopShooter => exact Shooter.reaches_perform _ .stop
      | _ => exact .refl _

theorem Reaches.drivetrain_settings (reaches : Reaches lua first last) :
    last.drivetrain.settings = first.drivetrain.settings := by
  refine reaches.invariant
    (fun actuators => actuators.drivetrain.settings = first.drivetrain.settings) ?_ rfl
  intro actuators call _ same
  refine Eq.trans ?_ same
  cases call with
  | shooter call => rfl
  | drive xSpeed rot => rfl
  | bound call => cases call <;> rfl

end Reaches

end Actuators

/-- The binding calls of a callback, if Lua makes them all. -/
def Event.calls {K τ π : Type*} : Event K τ π → List (BindingCall K)
  | .teleopInit start => start.load.calls ++ start.init.calls ++ start.prepare.calls
  | .testInit start => start.load.calls ++ start.init.calls ++ start.prepare.calls
  | .teleopPeriodic _ outcome => outcome.calls
  | .testPeriodic _ outcome => outcome.calls
  | .teleopExit outcome => outcome.calls
  | .testExit outcome => outcome.calls
  | _ => []

open Actuators

theorem RobotMain.toActuators_luaLogErrorIfPresent {K τ : Type*} {robot next : RobotMain K τ}
    (returned : robot.luaLogErrorIfPresent = .ok next) :
    next.toActuators = robot.toActuators := by
  unfold luaLogErrorIfPresent at returned
  split at returned
  · rw [← Except.ok.inj returned]
  · split at returned
    · cases returned
    · rw [← Except.ok.inj returned]

variable {K τ π : Type*} [Field K] [LinearOrder K] [FloorRing K]

namespace RobotMain

theorem reaches_invoke (robot : RobotMain K τ) (engine : Engine) (method : EngineMethod)
    (outcome : LuaOutcome K) :
    Reaches (· ∈ outcome.calls) robot.toActuators
      (robot.invoke engine method outcome).toActuators := by
  simp only [invoke]
  split
  · exact robot.toActuators.reaches_performAll fun _ member => member
  · exact .refl _

theorem reaches_checkedCall {robot next : RobotMain K τ} {method : EngineMethod}
    {outcome : LuaOutcome K} (returned : robot.checkedCall method outcome = .ok next) :
    Reaches (· ∈ outcome.calls) robot.toActuators next.toActuators := by
  unfold checkedCall at returned
  split at returned
  · cases returned
  next engine _ =>
    rw [toActuators_luaLogErrorIfPresent returned]
    exact reaches_invoke robot engine method outcome

theorem reaches_runEngine {platform : Platform K τ π} {robot next : RobotMain K τ}
    {outcome : LuaOutcome K} (returned : robot.runEngine platform outcome = .ok next) :
    Reaches (· ∈ outcome.calls) robot.toActuators next.toActuators := by
  unfold runEngine at returned
  split at returned
  · cases returned
  next engine _ =>
    have invoked := reaches_invoke robot engine .run outcome
    split at returned
    · rwa [← Except.ok.inj returned]
    · split at returned
      · cases returned
      · rwa [← Except.ok.inj returned]

theorem reaches_luaPeriodic {platform : Platform K τ π} {robot next : RobotMain K τ}
    {pad : GamepadReading K} {outcome : LuaOutcome K}
    (returned : robot.luaPeriodic platform pad outcome = .ok next) :
    Reaches (· ∈ outcome.calls) robot.toActuators next.toActuators := by
  by_cases lost : robot.LosesControl pad
  · rw [luaPeriodic_of_losesControl platform lost] at returned
    rw [← Except.ok.inj returned]
    exact (reaches_drive _ 0 0).trans (reaches_shooter _ .process)
  · rw [luaPeriodic_of_control platform lost] at returned
    obtain ⟨after, ran, rfl⟩ := Runs.map_ok.mp returned
    have called : Reaches (· ∈ outcome.calls) (robot.prepared pad).toActuators
        after.toActuators := by
      split at ran
      · exact reaches_checkedCall ran
      · exact reaches_runEngine ran
    exact called.trans (reaches_shooter _ .process)

theorem reaches_luaExit {robot next : RobotMain K τ} {outcome : LuaOutcome K}
    (returned : robot.luaExit outcome = .ok next) :
    Reaches (· ∈ outcome.calls) robot.toActuators next.toActuators := by
  unfold luaExit at returned
  split at returned
  · exact reaches_checkedCall returned
  · rw [← Except.ok.inj returned]
    exact .refl _

theorem reaches_safeLoadEngine (robot : RobotMain K τ) (start : SessionStart K) :
    Reaches (· ∈ start.load.calls ++ start.init.calls) robot.toActuators
      (robot.safeLoadEngine start).toActuators := by
  have loaded : Reaches (· ∈ start.load.calls ++ start.init.calls) robot.toActuators
      (robot.toActuators.performAll start.load.calls) :=
    robot.toActuators.reaches_performAll fun _ member => List.mem_append_left _ member
  cases haveError : (robot.newEngine start).haveError with
  | true =>
      simp only [newEngine] at haveError
      simpa [safeLoadEngine, loadEngine, haveError] using loaded
  | false =>
      simp only [newEngine] at haveError
      simp only [safeLoadEngine, loadEngine, haveError]
      exact loaded.trans
        ((reaches_invoke _ _ .init start.init).mono fun _ member => List.mem_append_right _ member)

theorem reaches_luaInit {robot next : RobotMain K τ} {start : SessionStart K}
    (returned : robot.luaInit start = .ok next) :
    Reaches (· ∈ start.load.calls ++ start.init.calls ++ start.prepare.calls) robot.toActuators
      next.toActuators := by
  have loaded := (robot.reaches_safeLoadEngine start).mono fun _ member =>
    List.mem_append_left start.prepare.calls member
  simp only [luaInit] at returned
  split at returned
  · rwa [← Except.ok.inj returned]
  · simp only [luaPrepare] at returned
    have reset := loaded.trans (reaches_shooter _ (.reset start.config))
    split at returned
    · exact reset.trans ((reaches_checkedCall returned).mono fun _ member =>
        List.mem_append_right _ member)
    · rwa [← Except.ok.inj returned]

section Program

variable {lua : BindingCall K → Prop}

theorem reaches_autonomousShoot (robot : RobotMain K τ) :
    Reaches lua robot.toActuators robot.autonomousShoot.toActuators := by
  unfold autonomousShoot
  split
  · exact (reaches_shooter _ .shoot).trans (reaches_shooter _ .process)
  · exact reaches_shooter _ .process

theorem reaches_autonomousPeriodic (platform : Platform K τ π) (robot : RobotMain K τ)
    (tick : AutoTick K π) :
    Reaches lua robot.toActuators (robot.autonomousPeriodic platform tick).toActuators := by
  apply (reaches_autonomousShoot robot).trans
  simp only [autonomousPeriodic]
  split
  · exact reaches_drive _ 0 0
  · simp only [autonomousMove, startMoving]
    split <;> exact reaches_drive _ _ _

end Program

theorem reaches_of_perform {platform : Platform K τ π} {robot next : RobotMain K τ}
    {event : Event K τ π} (returned : robot.perform platform event = .ok next) :
    Reaches (· ∈ event.calls) robot.toActuators next.toActuators := by
  cases event with
  | autonomousInit reads now =>
      obtain ⟨_, _, _, reloaded⟩ := robot.reloadTrajectory_frame platform reads
      rw [← Except.ok.inj returned, autonomousInit, reloaded]
      exact .refl _
  | autonomousPeriodic tick =>
      rw [← Except.ok.inj returned]
      exact reaches_autonomousPeriodic platform robot tick
  | teleopInit start =>
      have begins : Reaches (· ∈ (Event.teleopInit start : Event K τ π).calls)
          ({ robot with protectedLuaCalls := false } : RobotMain K τ).toActuators
          next.toActuators := reaches_luaInit returned
      exact begins
  | testInit start =>
      have begins : Reaches (· ∈ (Event.testInit start : Event K τ π).calls)
          ({ robot with
            protectedLuaCalls := true, luaErrorEncountered := false } : RobotMain K τ).toActuators
          next.toActuators := reaches_luaInit returned
      exact begins
  | disabledPeriodic =>
      rw [← Except.ok.inj returned]
      exact reaches_drive _ 0 0
  | teleopPeriodic pad outcome => exact reaches_luaPeriodic returned
  | testPeriodic pad outcome => exact reaches_luaPeriodic returned
  | teleopExit outcome => exact reaches_luaExit returned
  | testExit outcome => exact reaches_luaExit returned
  | _ =>
      rw [← Except.ok.inj returned]
      exact .refl _

end RobotMain

/-- The actuators at construction. -/
def Actuators.create (platform : Platform K τ π) (config : Config K) (now : K) : Actuators K where
  drivetrain := .create config platform.isReal platform.expLog now
  lifter := .setVoltage 0
  shooter := .create config

theorem RobotMain.toActuators_create (platform : Platform K τ π) (config : Config K) (now : K)
    (reads : ModeReads τ) :
    (create platform config now reads).toActuators = Actuators.create platform config now := by
  unfold create
  obtain ⟨_, _, _, reloaded⟩ := reloadTrajectory_frame platform _ reads
  rw [reloaded]
  rfl

namespace TimedRobot

variable {platform : Platform K τ π} {system : TimedRobot K τ}

/-- A run acts on the actuators by calls, from their construction on. -/
theorem actuators_of_reachable (reachable : Reachable platform system) :
    ∃ config now, Reaches (fun _ => True) (Actuators.create platform config now)
      system.robot.toActuators := by
  refine reachable_invariant
    (fun system => ∃ config now, Reaches (fun _ => True) (Actuators.create platform config now)
      system.robot.toActuators) ?_ ?_ reachable
  · intro config now reads
    refine ⟨config, now, ?_⟩
    rw [boot, RobotMain.toActuators_create]
    exact .refl _
  · rintro system event next ⟨config, now, reaches⟩ taken
    have called := RobotMain.reaches_of_perform (step_ok_iff.mp taken).2
    exact ⟨config, now, reaches.trans (called.mono fun _ _ => trivial)⟩

theorem shooter_of_reachable (reachable : Reachable platform system) :
    ∃ config, Shooter.Reaches (Shooter.create config) system.robot.shooter := by
  obtain ⟨config, now, reaches⟩ := actuators_of_reachable reachable
  exact ⟨config, reaches.shooter⟩

theorem drivetrain_settings_of_reachable (reachable : Reachable platform system) :
    ∃ config, system.robot.drivetrain.settings =
      Drivetrain.configured config platform.isReal platform.expLog := by
  obtain ⟨config, now, reaches⟩ := actuators_of_reachable reachable
  exact ⟨config, reaches.drivetrain_settings⟩

end TimedRobot

end RobotFirmware
