import Mathlib.Logic.Function.Basic
import Mathlib.Tactic.TypeStar

/-!
# Instances bound to Lua

The `bind` functions of `bindings.cpp` put a table of functions into the global
table `cxx`, or replace the functions of that table by empty ones.  The Lua
modules `gamepad`, `params` and `robot` capture such tables, and some of their
functions, when they are first loaded.  The model keeps the tables of `cxx` by
reference and tags every bound function with its instance; the numeric
constants and the arguments of the functions are left out.
-/

namespace RobotFirmware

/-- The classes with a `bind` function. -/
inductive BoundClass
  | gamepad
  | params
  | shooter
  | lifter
  | drivetrain
  deriving DecidableEq, Repr

namespace BoundClass

/-- The functions that `bind (self)` puts into a new table. -/
def installed : BoundClass → List String
  | .gamepad => ["raw_axis", "raw_button", "raw_button_pressed", "raw_button_released", "pov"]
  | .params => ["speed", "rotation", "brake"]
  | .shooter => ["shooting", "loading", "ready", "intake", "shoot", "stop"]
  | .lifter => ["move_up", "move_down", "stop"]
  | .drivetrain => ["drive"]

/-- The functions that `bind (nullptr)` clears. -/
def cleared : BoundClass → List String
  | .gamepad => ["raw_axis", "raw_button", "raw_button_pressed", "raw_button_released"]
  | .params => ["speed", "rotation", "brake"]
  | .shooter => ["shooting", "loading", "ready", "shoot", "intake", "stop"]
  | .lifter => ["move_up", "move_down", "stop"]
  | .drivetrain => ["drive"]

end BoundClass

/-- A function in a table: a lambda that has captured an instance, or the empty
lambda. -/
inductive LuaFunction (ι : Type*)
  | bound (cls : BoundClass) (self : ι) (name : String)
  | noop
  deriving DecidableEq, Repr

/-- The functions of a table by name; other names are `nil`. -/
def LuaTable (ι : Type*) :=
  String → Option (LuaFunction ι)

namespace LuaTable

variable {ι : Type*}

def empty : LuaTable ι :=
  fun _ => none

def set (table : LuaTable ι) (name : String) (function : LuaFunction ι) : LuaTable ι :=
  fun other => if other = name then some function else table other

def setAll (table : LuaTable ι) (names : List String) (function : String → LuaFunction ι) :
    LuaTable ι :=
  names.foldl (fun table name => table.set name (function name)) table

theorem set_apply (table : LuaTable ι) (name : String) (function : LuaFunction ι)
    (other : String) :
    table.set name function other = if other = name then some function else table other :=
  rfl

theorem setAll_apply (table : LuaTable ι) (names : List String)
    (function : String → LuaFunction ι) (name : String) :
    table.setAll names function name =
      if name ∈ names then some (function name) else table name := by
  induction names generalizing table with
  | nil => simp [setAll]
  | cons first rest ih =>
      rw [setAll, List.foldl_cons, ← setAll, ih, set_apply]
      by_cases inRest : name ∈ rest
      · simp [inRest]
      · by_cases here : name = first
        · simp [here]
        · simp [inRest, here]

end LuaTable

/-- The locals of `gamepad.lua`. -/
structure GamepadModule (ι : Type*) where
  impl : Nat
  rawAxis : Option (LuaFunction ι)
  rawButton : Option (LuaFunction ι)
  rawButtonPressed : Option (LuaFunction ι)
  rawButtonReleased : Option (LuaFunction ι)

/-- The local of `params.lua`. -/
structure ParamsModule where
  impl : Option Nat

/-- The locals of `robot.lua`. -/
structure RobotModule where
  drivetrain : Option Nat
  lifter : Option Nat
  shooter : Option Nat

/-- The functions of the module `gamepad`. -/
inductive GamepadFunction
  | axis
  | pov
  | A
  | B
  | X
  | Y
  | leftTrigger
  | rightTrigger
  | leftBumperPressed
  | leftBumperReleased
  | leftBumper
  | rightBumperPressed
  | rightBumperReleased
  | rightBumper
  deriving DecidableEq, Repr

/-- The functions of the module `params`. -/
inductive ParamsFunction
  | speed
  | rotation
  | brake
  deriving DecidableEq, Repr

/-- The functions of the module `robot`. -/
inductive RobotFunction
  | drive
  | raiseArms
  | lowerArms
  | stopLifter
  | shooting
  | intakeRunning
  | intake
  | shoot
  | stopShooter
  deriving DecidableEq, Repr

/-- A call of a function in a table of `cxx`, or of a function of a module. -/
inductive LuaCall
  | cxx (cls : BoundClass) (name : String)
  | gamepad (function : GamepadFunction)
  | params (function : ParamsFunction)
  | robot (function : RobotFunction)
  deriving DecidableEq, Repr

/-- The tables of a Lua state that `bind` has created, the global table `cxx`,
and what the loaded modules hold.  A table is referred to by its index. -/
structure LuaBindings (ι : Type*) where
  tables : List (LuaTable ι)
  cxx : Option (BoundClass → Option Nat)
  gamepad : Option (GamepadModule ι)
  params : Option ParamsModule
  robot : Option RobotModule

/-- What can happen to the bindings; `bind cls none` is `bind (nullptr)`. -/
inductive LuaAction (ι : Type*)
  | bind (cls : BoundClass) (self : Option ι)
  | requireGamepad
  | requireParams
  | requireRobot
  | call (call : LuaCall)

namespace LuaBindings

variable {ι : Type*}

/-- A new Lua state. -/
def fresh : LuaBindings ι :=
  ⟨[], none, none, none, none⟩

/-- `table.name`, where the table or the function may be `nil`. -/
def field (lua : LuaBindings ι) (table : Option Nat) (name : String) : Option (LuaFunction ι) :=
  table.bind fun ref => lua.tables[ref]?.bind fun functions => functions name

/-- `bind` of a class.  `cxx_table` creates the table `cxx` if it is missing. -/
def bind (lua : LuaBindings ι) (cls : BoundClass) (self : Option ι) : LuaBindings ι :=
  let cxx := lua.cxx.getD fun _ => none
  match self with
  | some self =>
      { lua with
        tables := lua.tables ++ [LuaTable.empty.setAll cls.installed (.bound cls self)]
        cxx := some (Function.update cxx cls (some lua.tables.length)) }
  | none =>
      match cxx cls with
      | none => { lua with cxx := some cxx }
      | some ref =>
          { lua with
            tables := lua.tables.modify ref fun table => table.setAll cls.cleared fun _ => .noop
            cxx := some cxx }

/-- `require ("gamepad")`.  Without the table `cxx.gamepad` loading fails, and
the module is not cached. -/
def requireGamepad (lua : LuaBindings ι) : LuaBindings ι :=
  match lua.gamepad with
  | some _ => lua
  | none =>
      match lua.cxx.bind fun cxx => cxx .gamepad with
      | none => lua
      | some impl =>
          { lua with
            gamepad := some
              { impl := impl
                rawAxis := lua.field (some impl) "raw_axis"
                rawButton := lua.field (some impl) "raw_button"
                rawButtonPressed := lua.field (some impl) "raw_button_pressed"
                rawButtonReleased := lua.field (some impl) "raw_button_released" } }

/-- `require ("params")`, which fails without the table `cxx`. -/
def requireParams (lua : LuaBindings ι) : LuaBindings ι :=
  match lua.params, lua.cxx with
  | none, some cxx => { lua with params := some ⟨cxx .params⟩ }
  | _, _ => lua

/-- `require ("robot")`, which fails without the table `cxx`. -/
def requireRobot (lua : LuaBindings ι) : LuaBindings ι :=
  match lua.robot, lua.cxx with
  | none, some cxx => { lua with robot := some ⟨cxx .drivetrain, cxx .lifter, cxx .shooter⟩ }
  | _, _ => lua

/-- The bound function that a function of `gamepad.lua` calls. -/
def callGamepad (lua : LuaBindings ι) (M : GamepadModule ι) :
    GamepadFunction → Option (LuaFunction ι)
  | .axis => M.rawAxis
  | .pov => lua.field (some M.impl) "pov"
  | .A => M.rawButton
  | .B => M.rawButton
  | .X => M.rawButton
  | .Y => M.rawButton
  | .leftTrigger => M.rawAxis
  | .rightTrigger => M.rawAxis
  | .leftBumperPressed => M.rawButtonPressed
  | .leftBumperReleased => M.rawButtonReleased
  | .leftBumper => M.rawButton
  | .rightBumperPressed => M.rawButtonPressed
  | .rightBumperReleased => M.rawButtonReleased
  | .rightBumper => M.rawButton

/-- The bound function that a function of `params.lua` calls. -/
def callParams (lua : LuaBindings ι) (M : ParamsModule) :
    ParamsFunction → Option (LuaFunction ι)
  | .speed => lua.field M.impl "speed"
  | .rotation => lua.field M.impl "rotation"
  | .brake => lua.field M.impl "brake"

/-- The bound function that a function of `robot.lua` calls. -/
def callRobot (lua : LuaBindings ι) (M : RobotModule) : RobotFunction → Option (LuaFunction ι)
  | .drive => lua.field M.drivetrain "drive"
  | .raiseArms => lua.field M.lifter "move_up"
  | .lowerArms => lua.field M.lifter "move_down"
  | .stopLifter => lua.field M.lifter "stop"
  | .shooting => lua.field M.shooter "shooting"
  | .intakeRunning => lua.field M.shooter "loading"
  | .intake => lua.field M.shooter "intake"
  | .shoot => lua.field M.shooter "shoot"
  | .stopShooter => lua.field M.shooter "stop"

/-- The function that a call executes; none if the call raises an error. -/
def call (lua : LuaBindings ι) : LuaCall → Option (LuaFunction ι)
  | .cxx cls name => lua.cxx.bind fun cxx => lua.field (cxx cls) name
  | .gamepad function => lua.gamepad.bind fun M => lua.callGamepad M function
  | .params function => lua.params.bind fun M => lua.callParams M function
  | .robot function => lua.robot.bind fun M => lua.callRobot M function

/-- A call leaves the tables and the modules as they are. -/
def act (lua : LuaBindings ι) : LuaAction ι → LuaBindings ι
  | .bind cls self => lua.bind cls self
  | .requireGamepad => lua.requireGamepad
  | .requireParams => lua.requireParams
  | .requireRobot => lua.requireRobot
  | .call _ => lua

end LuaBindings

/-- The instances of a class that have been bound since its last unbinding, if
there was one. -/
def boundSince {ι : Type*} (past : List (LuaAction ι)) (cls : BoundClass) : Option (List ι) :=
  past.foldl
    (fun since action =>
      match action with
      | .bind bound (some self) => if bound = cls then since.map (self :: ·) else since
      | .bind bound none => if bound = cls then some [] else since
      | _ => since)
    none

section BoundSince

variable {ι : Type*} (past : List (LuaAction ι)) (cls : BoundClass)

theorem boundSince_append_bind (bound : BoundClass) (self : ι) :
    boundSince (past ++ [.bind bound (some self)]) cls =
      if bound = cls then (boundSince past cls).map (self :: ·) else boundSince past cls := by
  simp [boundSince]

theorem boundSince_append_unbind (bound : BoundClass) :
    boundSince (past ++ [.bind bound none]) cls =
      if bound = cls then some [] else boundSince past cls := by
  simp [boundSince]

theorem boundSince_append_of_not_bind {action : LuaAction ι}
    (notBind : ∀ bound self, action ≠ .bind bound self) :
    boundSince (past ++ [action]) cls = boundSince past cls := by
  cases action with
  | bind bound self => exact absurd rfl (notBind bound self)
  | _ => simp [boundSince]

end BoundSince

/-- The function belongs to an instance that has not been bound since its class
was last unbound. -/
def LuaFunction.Stale {ι : Type*} (past : List (LuaAction ι)) : LuaFunction ι → Prop
  | .bound cls self _ => ∃ instances, boundSince past cls = some instances ∧ self ∉ instances
  | .noop => False

end RobotFirmware
