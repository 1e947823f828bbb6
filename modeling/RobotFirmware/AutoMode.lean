import Mathlib.Init

/-!
# Choosing an autonomous mode

`AutoModeChooser::info` asks the Lua `config` module for the trajectory table
of the selected mode.  Every one of its reads may throw a `std::exception`,
and the trajectory itself is generated by WPILib.
-/

namespace RobotFirmware

/-- A field of a Lua table, as far as a lookup of a boolean can tell. -/
inductive LuaField
  | absent
  | boolean (value : Bool)
  | otherType
  deriving DecidableEq, Repr

/-- `sol::table::get_or<bool>`. -/
def LuaField.getOr (otherwise : Bool) : LuaField → Bool
  | .boolean value => value
  | _ => otherwise

/-- The flags of a trajectory table of `config.lua`. -/
structure TrajectoryTable where
  shoot : LuaField
  reverse : LuaField
  deriving DecidableEq, Repr

/-- One attempt to read the selected mode: the selection of the dashboard, the
table behind it, and the exception thrown by each read, if any. -/
structure ModeReads (τ : Type*) where
  selected : String
  defaultMatchStart : String
  table : TrajectoryTable
  infoShootThrows : Option String
  infoReverseThrows : Option String
  trajectory : Except String τ
  shootThrows : Option String

/-- `AutoModeInfo`. -/
structure AutoModeInfo (τ : Type*) where
  name : String
  reverse : Bool
  shoot : Bool
  trajectory : τ

namespace ModeReads

variable {τ : Type*}

/-- Do a read that may throw. -/
def attempt {α : Type*} (throws : Option String) (result : α) : Except String α :=
  match throws with
  | none => .ok result
  | some what => .error what

def get (reads : ModeReads τ) : String :=
  if reads.selected.isEmpty then reads.defaultMatchStart else reads.selected

def info (reads : ModeReads τ) (default : AutoModeInfo τ) : Except String (AutoModeInfo τ) :=
  let info := { default with name := reads.get }
  -- `trajectoryShouldShoot (info.name, info.shoot)`
  match attempt reads.infoShootThrows (reads.table.shoot.getOr info.shoot) with
  | .error what => .error what
  | .ok shoot =>
      let info := { info with shoot := shoot }
      -- `trajectoryIsReverse (info.name, info.reverse)`
      match attempt reads.infoReverseThrows (reads.table.reverse.getOr info.reverse) with
      | .error what => .error what
      | .ok reverse =>
          let info := { info with reverse := reverse }
          match reads.trajectory with
          | .error what => .error what
          | .ok trajectory => .ok { info with trajectory := trajectory }

/-- `trajectoryShouldShoot (autoMode->get())`, with the default argument. -/
def shouldShoot (reads : ModeReads τ) : Except String Bool :=
  attempt reads.shootThrows (reads.table.shoot.getOr true)

/-- Some read throws. -/
def throws (reads : ModeReads τ) : Bool :=
  reads.infoShootThrows.isSome || reads.infoReverseThrows.isSome ||
    !reads.trajectory.isOk || reads.shootThrows.isSome

end ModeReads

end RobotFirmware
