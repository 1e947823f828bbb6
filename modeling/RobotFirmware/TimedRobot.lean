import RobotFirmware.RobotMain
import RobotFirmware.Runs

/-!
# The callback sequence

WPILib's `TimedRobot` runs the robot in sessions of the four modes.  A session
is the mode's `Init`, any number of its `Periodic` and its `Exit`, and the
next session may be of any mode.  A run of the robot program is a list of
callbacks that respects this order, each with what it reads.
-/

namespace RobotFirmware

inductive Mode
  | disabled
  | autonomous
  | teleop
  | test
  deriving DecidableEq, Repr

/-- A callback of `RobotMain` with its inputs. -/
inductive Event (K τ π : Type*)
  | disabledInit
  | disabledPeriodic
  | disabledExit
  | autonomousInit (reads : ModeReads τ) (now : K)
  | autonomousPeriodic (tick : AutoTick K π)
  | autonomousExit
  | teleopInit (start : SessionStart K)
  | teleopPeriodic (pad : GamepadReading K) (outcome : LuaOutcome K)
  | teleopExit (outcome : LuaOutcome K)
  | testInit (start : SessionStart K)
  | testPeriodic (pad : GamepadReading K) (outcome : LuaOutcome K)
  | testExit (outcome : LuaOutcome K)

/-- The framework's view of a callback. -/
inductive Slot
  | init (mode : Mode)
  | periodic (mode : Mode)
  | exit (mode : Mode)
  deriving DecidableEq, Repr

def Event.slot {K τ π : Type*} : Event K τ π → Slot
  | .disabledInit => .init .disabled
  | .disabledPeriodic => .periodic .disabled
  | .disabledExit => .exit .disabled
  | .autonomousInit _ _ => .init .autonomous
  | .autonomousPeriodic _ => .periodic .autonomous
  | .autonomousExit => .exit .autonomous
  | .teleopInit _ => .init .teleop
  | .teleopPeriodic _ _ => .periodic .teleop
  | .teleopExit _ => .exit .teleop
  | .testInit _ => .init .test
  | .testPeriodic _ _ => .periodic .test
  | .testExit _ => .exit .test

/-- The open session after a callback, if it may be made now. -/
def schedule : Option Mode → Slot → Option (Option Mode)
  | none, .init mode => some (some mode)
  | some current, .periodic mode => if current = mode then some (some mode) else none
  | some current, .exit mode => if current = mode then some none else none
  | _, _ => none

theorem mem_of_schedule {current next : Option Mode} {slot : Slot} {mode : Mode}
    (scheduled : schedule current slot = some next)
    (inside : slot = .periodic mode ∨ slot = .exit mode) : mode ∈ current := by
  cases current with
  | none => rcases inside with rfl | rfl <;> simp [schedule] at scheduled
  | some entered =>
      rcases inside with rfl | rfl
      · simp only [schedule, Option.ite_none_right_eq_some] at scheduled
        simp [scheduled.1]
      · simp only [schedule, Option.ite_none_right_eq_some] at scheduled
        simp [scheduled.1]

theorem eq_of_mem_schedule {current next : Option Mode} {slot : Slot} {mode : Mode}
    (scheduled : schedule current slot = some next) (isOpen : mode ∈ next) :
    slot = .init mode ∨ slot = .periodic mode ∧ mode ∈ current := by
  cases current with
  | none =>
      cases slot with
      | init entered =>
          obtain rfl : some entered = next := by simpa [schedule] using scheduled
          exact .inl (by simpa using isOpen)
      | _ => simp [schedule] at scheduled
  | some entered =>
      cases slot with
      | init _ => simp [schedule] at scheduled
      | periodic ticked =>
          obtain ⟨rfl, rfl⟩ : entered = ticked ∧ some ticked = next := by
            simpa [schedule] using scheduled
          exact .inr ⟨by simpa using isOpen, isOpen⟩
      | exit left =>
          obtain ⟨-, rfl⟩ : entered = left ∧ none = next := by simpa [schedule] using scheduled
          simp at isOpen

namespace RobotMain

variable {K τ π : Type*} [Field K] [LinearOrder K] [FloorRing K]

/-- Run one callback.  Collecting garbage and printing have no effect here. -/
def perform (platform : Platform K τ π) (robot : RobotMain K τ) :
    Event K τ π → Except Halt (RobotMain K τ)
  | .disabledInit => .ok robot
  | .disabledPeriodic => .ok robot.driveDisabled
  | .disabledExit => .ok robot
  | .autonomousInit reads now => .ok (robot.autonomousInit platform reads now)
  | .autonomousPeriodic tick => .ok (robot.autonomousPeriodic platform tick)
  | .autonomousExit => .ok robot
  | .teleopInit start => robot.teleopInit start
  | .teleopPeriodic pad outcome => robot.luaPeriodic platform pad outcome
  | .teleopExit outcome => robot.luaExit outcome
  | .testInit start => robot.testInit start
  | .testPeriodic pad outcome => robot.luaPeriodic platform pad outcome
  | .testExit outcome => robot.luaExit outcome

end RobotMain

/-- The robot program inside its framework. -/
structure TimedRobot (K τ : Type*) where
  robot : RobotMain K τ
  mode : Option Mode

/-- A session for the bench whose callbacks all succeed and command nothing. -/
def SessionStart.bench : SessionStart Rat where
  botPath := "teleop.bot"
  load := .factory [] (some fun _ => true)
  init := ⟨[], none⟩
  prepare := ⟨[], none⟩
  config := .bench

/-- A gamepad on the bench that nobody touches. -/
def GamepadReading.bench (connected : Bool) : GamepadReading Rat where
  connected := connected
  axisCount := 6
  rawAxis := fun _ => 0
  povCount := 1
  pov := -1
  buttonCount := 10
  rawButton := fun _ => false
  rawButtonPressed := fun _ => false
  rawButtonReleased := fun _ => false

namespace TimedRobot

variable {K τ π : Type*} [Field K] [LinearOrder K] [FloorRing K]

/-- The framework makes one callback. -/
def step (platform : Platform K τ π) (system : TimedRobot K τ) (event : Event K τ π) :
    Except Halt (TimedRobot K τ) :=
  match schedule system.mode event.slot with
  | none => .error .notScheduled
  | some mode =>
      match system.robot.perform platform event with
      | .error halt => .error halt
      | .ok robot => .ok ⟨robot, mode⟩

/-- The callbacks in order, from a given state. -/
def run (platform : Platform K τ π) (system : TimedRobot K τ) (events : List (Event K τ π)) :
    Except Halt (TimedRobot K τ) :=
  events.foldlM (step platform) system

/-- The robot after construction and `RobotInit`. -/
def boot (platform : Platform K τ π) (config : Config K) (now : K) (reads : ModeReads τ) :
    TimedRobot K τ :=
  ⟨.create platform config now reads, none⟩

/-- The states that some run of the program reaches. -/
def Reachable (platform : Platform K τ π) (system : TimedRobot K τ) : Prop :=
  ∃ config now reads events,
    run platform (boot platform config now reads) events = .ok system

/-- The end of a run: a history of sessions, up to any callback. -/
abbrev Reached (platform : Platform K τ π) :=
  { system : TimedRobot K τ // Reachable platform system }

theorem step_ok_iff {platform : Platform K τ π} {system next : TimedRobot K τ}
    {event : Event K τ π} :
    step platform system event = .ok next ↔
      schedule system.mode event.slot = some next.mode ∧
        system.robot.perform platform event = .ok next.robot := by
  unfold step
  cases schedule system.mode event.slot with
  | none => simp
  | some mode =>
      cases system.robot.perform platform event with
      | error halt => simp
      | ok robot =>
          cases next
          simp [and_comm]

/-- What holds after booting and is kept by every callback holds of every
reachable state. -/
theorem reachable_invariant {platform : Platform K τ π} (property : TimedRobot K τ → Prop)
    (booted : ∀ config now reads, property (boot platform config now reads))
    (preserved : ∀ system event next, property system →
      step platform system event = .ok next → property next)
    {system : TimedRobot K τ} (reachable : Reachable platform system) : property system := by
  obtain ⟨config, now, reads, events, reached⟩ := reachable
  exact Runs.invariant_of_run (step platform) property (fun _ => True)
    (fun system event next holds _ taken => preserved system event next holds taken)
    (booted config now reads) (fun _ _ => trivial) reached

end TimedRobot

end RobotFirmware
