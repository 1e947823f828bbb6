import Mathlib.Data.List.Infix
import RobotFirmware.TimedRobot

/-!
# The life of the engines

Seen from its Lua engines, the robot program is a small machine: a Teleop or
Test session loads an engine, its callbacks call methods of that engine while
no error is recorded, and everything else is quiet.  This file defines the
machine and its invariant, which says that every engine goes through `init`,
`prepare`, `run` any number of times and `cleanup`, in its own session.
-/

namespace RobotFirmware

/-- The modes that run an engine. -/
def Mode.runsLua : Mode → Bool
  | .teleop => true
  | .test => true
  | _ => false

/-- What the robot program remembers of its engines: the current one, whether
an error is recorded, and the history. -/
structure EngineHistory where
  engine : Option Nat
  error : Bool
  sessions : Nat
  failedLoads : List Nat
  calls : List EngineCall
  log : List LoggedError

namespace EngineHistory

/-- The callbacks received by one engine, in order. -/
def callbacks (history : EngineHistory) (identity : Nat) : List Callback :=
  (history.calls.filter fun call => call.identity = identity).map fun call => call.method.callback

/-- The current session begins with an engine that it cannot load. -/
def failLoad (history : EngineHistory) : EngineHistory :=
  { history with
    error := true
    sessions := history.sessions + 1
    failedLoads := history.failedLoads ++ [history.sessions + 1] }

/-- A new session begins with a new engine. -/
def load (history : EngineHistory) : EngineHistory :=
  { history with
    engine := some (history.sessions + 1)
    error := false
    sessions := history.sessions + 1 }

/-- A method of an engine is called; when it returns false, the error is
recorded and logged.  The result of `init` and `run` is not looked at. -/
def call (history : EngineHistory) (identity : Nat) (method : EngineMethod)
    (invoked failed : Bool) (message : String) : EngineHistory :=
  let error := failed && method != .init && method != .run
  { history with
    error := error
    calls := history.calls ++ [⟨history.sessions, identity, method, invoked, failed⟩]
    log :=
      if error then history.log ++ [⟨history.sessions, identity, message⟩] else history.log }

/-- The transitions of the machine, by the callback that makes them. -/
inductive Step : Slot → EngineHistory → EngineHistory → Prop
  | quiet {slot history} (noLoad : ∀ mode, slot = .init mode → mode.runsLua = false) :
      Step slot history history
  | loadFails {mode history} (lua : mode.runsLua = true) :
      Step (.init mode) history history.failLoad
  | loads {mode history} (lua : mode.runsLua = true) {invoked failed invoked' failed' : Bool}
      (message : String) (initRan : failed = true → invoked = true)
      (prepareRan : failed' = true → invoked' = true) :
      Step (.init mode) history
        ((history.load.call (history.sessions + 1) .init invoked failed "").call
          (history.sessions + 1) .prepare invoked' failed' message)
  | runs {mode history identity method} (lua : mode.runsLua = true)
      (isRun : method.callback = .run) (current : history.engine = some identity)
      (noError : history.error = false) (invoked failed : Bool) (message : String) :
      Step (.periodic mode) history (history.call identity method invoked failed message)
  | cleansUp {mode history identity} (lua : mode.runsLua = true)
      (current : history.engine = some identity) (noError : history.error = false)
      (invoked failed : Bool) (message : String) :
      Step (.exit mode) history (history.call identity .cleanup invoked failed message)

/-- A prefix of `init`, `prepare`, `run` any number of times, `cleanup`. -/
def FollowsProtocol (callbacks : List Callback) : Prop :=
  ∃ runs, callbacks <+: .init :: .prepare :: (List.replicate runs .run ++ [.cleanup])

/-- What holds of the machine at all times. -/
structure Kept (history : EngineHistory) : Prop where
  own : ∀ call ∈ history.calls, call.session = call.identity ∧ call.identity ≤ history.sessions ∧
    call.session ∉ history.failedLoads
  logged : ∀ line ∈ history.log, line.session = line.identity
  failed : ∀ session ∈ history.failedLoads, session ≤ history.sessions
  follows : ∀ identity, FollowsProtocol (history.callbacks identity)

/-- The current engine belongs to the current session, and has received `init`,
`prepare` and any number of `run`. -/
structure Running (history : EngineHistory) : Prop where
  current : history.engine = some history.sessions
  loaded : history.sessions ∉ history.failedLoads
  received : ∃ runs,
    history.callbacks history.sessions = .init :: .prepare :: List.replicate runs .run

/-- What holds of the machine between the callbacks of a mode. -/
structure InProtocol (mode : Option Mode) (history : EngineHistory) : Prop where
  kept : history.Kept
  running : ∀ current ∈ mode, current.runsLua = true → history.error = false → history.Running

@[simp]
theorem callbacks_call (history : EngineHistory) (identity identity' : Nat)
    (method : EngineMethod) (invoked failed : Bool) (message : String) :
    (history.call identity method invoked failed message).callbacks identity' =
      if identity = identity' then history.callbacks identity' ++ [method.callback]
      else history.callbacks identity' := by
  simp only [callbacks, call, List.filter_append, List.map_append]
  split
  next same => simp [same]
  next differ => simp [differ]

theorem Kept.callbacks_of_lt {history : EngineHistory} (kept : history.Kept) {identity : Nat}
    (new : history.sessions < identity) : history.callbacks identity = [] := by
  rw [callbacks, List.map_eq_nil_iff, List.filter_eq_nil_iff]
  intro call member same
  obtain ⟨-, bound, -⟩ := kept.own call member
  simp only [decide_eq_true_eq] at same
  omega

theorem followsProtocol_runs (runs : Nat) :
    FollowsProtocol (.init :: .prepare :: List.replicate runs .run) :=
  ⟨runs, [.cleanup], rfl⟩

theorem Kept.load {history : EngineHistory} (kept : history.Kept) : history.load.Kept := by
  refine ⟨?_, kept.logged, ?_, kept.follows⟩
  · intro call member
    obtain ⟨same, bound, loaded⟩ := kept.own call member
    exact ⟨same, Nat.le_succ_of_le bound, loaded⟩
  · intro session member
    exact Nat.le_succ_of_le (kept.failed session member)

theorem Kept.failLoad {history : EngineHistory} (kept : history.Kept) :
    history.failLoad.Kept := by
  refine ⟨?_, kept.logged, ?_, kept.follows⟩
  · intro call member
    obtain ⟨same, bound, loaded⟩ := kept.own call member
    refine ⟨same, Nat.le_succ_of_le bound, ?_⟩
    intro failed
    rcases List.mem_append.mp failed with earlier | now
    · exact loaded earlier
    · have new : call.session = history.sessions + 1 := by simpa using now
      omega
  · intro session member
    rcases List.mem_append.mp member with earlier | now
    · exact Nat.le_succ_of_le (kept.failed session earlier)
    · have new : session = history.sessions + 1 := by simpa using now
      exact new.le

theorem Kept.call {history : EngineHistory} (kept : history.Kept)
    (loaded : history.sessions ∉ history.failedLoads) {method : EngineMethod}
    (continues : FollowsProtocol (history.callbacks history.sessions ++ [method.callback]))
    (invoked failed : Bool) (message : String) :
    (history.call history.sessions method invoked failed message).Kept := by
  refine ⟨?_, ?_, kept.failed, ?_⟩
  · intro entry member
    rcases List.mem_append.mp member with earlier | now
    · exact kept.own entry earlier
    · obtain rfl : entry = ⟨history.sessions, history.sessions, method, invoked, failed⟩ := by
        simpa using now
      exact ⟨rfl, le_rfl, loaded⟩
  · intro line member
    simp only [EngineHistory.call] at member
    split at member
    · rcases List.mem_append.mp member with earlier | now
      · exact kept.logged line earlier
      · obtain rfl : line = ⟨history.sessions, history.sessions, message⟩ := by simpa using now
        rfl
    · exact kept.logged line member
  · intro identity
    rw [callbacks_call]
    split
    next same =>
      subst same
      exact continues
    next => exact kept.follows identity

theorem Kept.not_mem_failedLoads {history : EngineHistory} (kept : history.Kept) :
    history.sessions + 1 ∉ history.failedLoads := by
  intro failed
  have bound := kept.failed _ failed
  omega

theorem Kept.load_call_init {history : EngineHistory} (kept : history.Kept)
    (invoked failed : Bool) :
    (history.load.call (history.sessions + 1) .init invoked failed "").Kept := by
  refine kept.load.call kept.not_mem_failedLoads ?_ invoked failed ""
  have new : history.load.callbacks (history.sessions + 1) = [] :=
    kept.callbacks_of_lt (Nat.lt_succ_self _)
  change FollowsProtocol (history.load.callbacks (history.sessions + 1) ++ [.init])
  rw [new]
  exact ⟨0, [.prepare, .cleanup], rfl⟩

theorem InProtocol.loads {mode : Option Mode} {history : EngineHistory}
    (inProtocol : InProtocol mode history) (next : Option Mode)
    (invoked failed invoked' failed' : Bool) (message : String) :
    InProtocol next
      ((history.load.call (history.sessions + 1) .init invoked failed "").call
        (history.sessions + 1) .prepare invoked' failed' message) := by
  have loaded := inProtocol.kept.not_mem_failedLoads
  have afterInit : (history.load.call (history.sessions + 1) .init invoked failed "").callbacks
      (history.sessions + 1) = [.init] := by
    have new : history.load.callbacks (history.sessions + 1) = [] :=
      inProtocol.kept.callbacks_of_lt (Nat.lt_succ_self _)
    rw [callbacks_call, if_pos rfl, new]
    rfl
  have keptInit := inProtocol.kept.load_call_init invoked failed
  refine ⟨Kept.call keptInit loaded ?_ invoked' failed' message, ?_⟩
  · change FollowsProtocol ((history.load.call (history.sessions + 1) .init invoked failed
      "").callbacks (history.sessions + 1) ++ [.prepare])
    rw [afterInit]
    exact followsProtocol_runs 0
  · intro _ _ _ _
    refine ⟨rfl, loaded, 0, ?_⟩
    change EngineHistory.callbacks _ (history.sessions + 1) = _
    rw [callbacks_call, if_pos rfl, afterInit]
    rfl

theorem InProtocol.runs {mode : Option Mode} {history : EngineHistory}
    (kept : history.Kept) (running : history.Running) {method : EngineMethod}
    (isRun : method.callback = .run) (invoked failed : Bool) (message : String) :
    InProtocol mode (history.call history.sessions method invoked failed message) := by
  obtain ⟨current, loaded, runs, received⟩ := running
  have received' : history.callbacks history.sessions ++ [method.callback] =
      .init :: .prepare :: List.replicate (runs + 1) .run := by
    rw [received, isRun, List.replicate_succ']
    rfl
  refine ⟨kept.call loaded ?_ invoked failed message, ?_⟩
  · rw [received']
    exact followsProtocol_runs (runs + 1)
  · intro _ _ _ _
    refine ⟨current, loaded, runs + 1, ?_⟩
    change EngineHistory.callbacks _ history.sessions = _
    rw [callbacks_call, if_pos rfl, received']

theorem InProtocol.running_current {mode next : Option Mode} {slot : Slot} {entered : Mode}
    {history : EngineHistory} (inProtocol : InProtocol mode history)
    (scheduled : schedule mode slot = some next)
    (inside : slot = .periodic entered ∨ slot = .exit entered) (lua : entered.runsLua = true)
    (noError : history.error = false) {identity : Nat}
    (current : history.engine = some identity) : history.sessions = identity ∧ history.Running := by
  have running := inProtocol.running entered (mem_of_schedule scheduled inside) lua noError
  exact ⟨Option.some.inj (running.current.symm.trans current), running⟩

theorem InProtocol.step {mode next : Option Mode} {slot : Slot} {history history' : EngineHistory}
    (inProtocol : InProtocol mode history) (scheduled : schedule mode slot = some next)
    (step : Step slot history history') : InProtocol next history' := by
  cases step with
  | quiet noLoad =>
      refine ⟨inProtocol.kept, fun current isOpen lua noError => ?_⟩
      rcases eq_of_mem_schedule scheduled isOpen with entered | ⟨-, wasOpen⟩
      · rw [noLoad current entered] at lua
        cases lua
      · exact inProtocol.running current wasOpen lua noError
  | loadFails => exact ⟨inProtocol.kept.failLoad, fun _ _ _ noError => by cases noError⟩
  | loads => exact inProtocol.loads next _ _ _ _ _
  | runs lua isRun current noError invoked failed message =>
      obtain ⟨rfl, running⟩ :=
        inProtocol.running_current scheduled (.inl rfl) lua noError current
      exact InProtocol.runs inProtocol.kept running isRun invoked failed message
  | cleansUp lua current noError invoked failed message =>
      obtain ⟨rfl, running⟩ :=
        inProtocol.running_current scheduled (.inr rfl) lua noError current
      refine ⟨inProtocol.kept.call running.loaded ?_ invoked failed message, ?_⟩
      · obtain ⟨runs, received⟩ := running.received
        rw [received]
        exact ⟨runs, List.prefix_rfl⟩
      · intro _ isOpen
        rcases eq_of_mem_schedule scheduled isOpen with slot | ⟨slot, -⟩ <;> cases slot

end EngineHistory

end RobotFirmware
