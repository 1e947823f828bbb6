import RobotFirmware.Runs
import RobotFirmware.Scripting

/-!
# Lifecycle objects

A `Lifecycle` object stands for the Lua state that its constructor has created,
and there should be one of them at most.  The constructor of a second one
throws, but destroys the state of the first before it does.
-/

namespace RobotFirmware

/-- The static variables with the `Lifecycle` objects that were constructed
and not destructed yet, each given by the state that it created. -/
structure Lifecycles where
  scripting : Scripting
  alive : List Nat
  deriving DecidableEq, Repr

namespace Lifecycles

open Runs

def start : Lifecycles :=
  ⟨.start, []⟩

/-- What a program does with `Lifecycle` objects.  `luaState` is a call of
`lua::state`, and `destruct` ends one of the objects that are alive. -/
inductive Action
  | construct
  | destruct (index : Nat)
  | luaState
  deriving DecidableEq, Repr

def perform (host : LuaHost) (lifecycles : Lifecycles) : Action → Lifecycles
  | .construct =>
      match lifecycles.scripting.construct host with
      | (.ok (), scripting) => ⟨scripting, lifecycles.alive ++ [lifecycles.scripting.created]⟩
      | (.error _, scripting) => ⟨scripting, lifecycles.alive⟩
  | .destruct index =>
      if index < lifecycles.alive.length then
        ⟨lifecycles.scripting.destroy, lifecycles.alive.eraseIdx index⟩
      else
        lifecycles
  | .luaState => lifecycles

/-- The constructor throws here. -/
def Throws (host : LuaHost) (lifecycles : Lifecycles) : Prop :=
  ∃ message, (lifecycles.scripting.construct host).1 = .error message

/-- `lua::state` succeeds exactly when an object is alive, and returns the
state that this object created. -/
def StateIsOwned (lifecycles : Lifecycles) : Prop :=
  (∀ state, lifecycles.scripting.luaState = .ok state → lifecycles.alive = [state.id]) ∧
    ((∃ state, lifecycles.scripting.luaState = .ok state) ↔ lifecycles.alive ≠ [])

/-- What an action should leave of the objects that are alive: one of them at
most, a construction that throws if and only if there is one and then changes
no state, and the state that belongs to the object. -/
structure LeavesIntact (host : LuaHost) (lifecycles : Lifecycles) (action : Action) : Prop where
  atMostOne : (lifecycles.perform host action).alive.length ≤ 1
  throws_iff : action = .construct → (lifecycles.Throws host ↔ lifecycles.alive ≠ [])
  unchanged : action = .construct → lifecycles.Throws host →
    (lifecycles.perform host action).scripting.state = lifecycles.scripting.state
  owned : (lifecycles.perform host action).StateIsOwned

/-- Nothing is alive, or one object with the current state. -/
inductive Sound : Lifecycles → Prop
  | absent (scripting : Scripting) (empty : scripting.state = none) : Sound ⟨scripting, []⟩
  | present (scripting : Scripting) (state : LuaState) (current : scripting.state = some state) :
      Sound ⟨scripting, [state.id]⟩

theorem Sound.throws_iff {host : LuaHost} {lifecycles : Lifecycles} (sound : Sound lifecycles) :
    lifecycles.Throws host ↔ lifecycles.alive ≠ [] := by
  cases sound with
  | absent scripting empty => simp [Throws, Scripting.construct, empty]
  | present scripting state current => simp [Throws, Scripting.construct, current]

theorem Sound.owned {lifecycles : Lifecycles} (sound : Sound lifecycles) :
    lifecycles.alive.length ≤ 1 ∧ lifecycles.StateIsOwned := by
  cases sound with
  | absent scripting empty => simp [StateIsOwned, Scripting.luaState, empty]
  | present scripting state current => simp [StateIsOwned, Scripting.luaState, current]

theorem Sound.perform (host : LuaHost) {lifecycles : Lifecycles} (sound : Sound lifecycles)
    {action : Action} (first : action = .construct → lifecycles.alive = []) :
    Sound (lifecycles.perform host action) := by
  cases sound with
  | absent scripting empty =>
      cases action with
      | construct =>
          have constructed : scripting.construct host = (.ok (), scripting.init host) := by
            simp [Scripting.construct, empty]
          simp only [Lifecycles.perform, constructed, List.nil_append]
          refine .present _ ⟨scripting.created, host.packagePath, none, none⟩ ?_
          simp [Scripting.init, empty]
      | destruct index => exact .absent scripting empty
      | luaState => exact .absent scripting empty
  | present scripting state current =>
      cases action with
      | construct => exact absurd (first rfl) (by simp)
      | destruct index =>
          simp only [Lifecycles.perform, List.length_singleton]
          split
          next inside =>
            obtain rfl : index = 0 := by omega
            exact .absent _ rfl
          next => exact .present scripting state current
      | luaState => exact .present scripting state current

theorem Sound.leavesIntact_iff {host : LuaHost} {lifecycles : Lifecycles}
    (sound : Sound lifecycles) (action : Action) :
    lifecycles.LeavesIntact host action ↔ (action = .construct → lifecycles.alive = []) := by
  constructor
  · rintro ⟨-, throws_iff, unchanged, -⟩ constructs
    by_contra alive
    have same := unchanged constructs ((throws_iff constructs).mpr alive)
    cases sound with
    | absent scripting empty => exact alive rfl
    | present scripting state current =>
        subst constructs
        simp [Lifecycles.perform, Scripting.construct, current, Scripting.destroy] at same
  · intro first
    have after := (sound.perform host first).owned
    refine ⟨after.1, fun _ => sound.throws_iff, ?_, after.2⟩
    intro constructs throws
    exact absurd (first constructs) (sound.throws_iff.mp throws)

/-- **Lifecycle objects.** In every run, all actions leave the live objects
intact if and only if no construction is attempted while an object is alive. -/
theorem lifecycles_intact_iff (host : LuaHost) (actions : List Action) :
    (∀ taken ∈ steps (perform host) start actions, taken.1.LeavesIntact host taken.2) ↔
      ∀ taken ∈ steps (perform host) start actions,
        taken.2 = .construct → taken.1.alive = [] := by
  refine forall_steps_iff (perform host) Sound (fun _ _ => True) (LeavesIntact host)
    (fun lifecycles action => action = .construct → lifecycles.alive = []) ?_ ?_
    (.absent .start rfl) (fun _ _ => trivial)
  · intro lifecycles action sound _
    exact sound.leavesIntact_iff action
  · intro lifecycles action sound _ intact
    exact sound.perform host ((sound.leavesIntact_iff action).mp intact)

/-- A second construction leaves the first object without its state. -/
theorem second_lifecycle_destroys_state :
    ¬ ∀ (host : LuaHost) (actions : List Action),
      ∀ taken ∈ steps (perform host) start actions, taken.1.LeavesIntact host taken.2 := by
  intro intact
  let one := start.perform .bench .construct
  have second := intact .bench [.construct, .construct] (one, .construct) (by simp [one])
  have unchanged := second.unchanged rfl ⟨"lua::Lifecycle already exists.", rfl⟩
  exact absurd unchanged (by decide)

end Lifecycles

end RobotFirmware
