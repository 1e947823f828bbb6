import Mathlib.Tactic.Convert
import RobotFirmware.LuaBindings

/-!
# The bindings of a robot

The constructor of `RobotMain` binds its members before any bot is loaded, and
the destructor unbinds them.  The bots come to the members through `cxx` and
through the modules `gamepad`, `params` and `robot`, each loaded once, when a
bot first asks for it.
-/

namespace RobotFirmware

namespace LuaCall

def gamepadName : GamepadFunction → String
  | .axis => "raw_axis"
  | .pov => "pov"
  | .A => "raw_button"
  | .B => "raw_button"
  | .X => "raw_button"
  | .Y => "raw_button"
  | .leftTrigger => "raw_axis"
  | .rightTrigger => "raw_axis"
  | .leftBumperPressed => "raw_button_pressed"
  | .leftBumperReleased => "raw_button_released"
  | .leftBumper => "raw_button"
  | .rightBumperPressed => "raw_button_pressed"
  | .rightBumperReleased => "raw_button_released"
  | .rightBumper => "raw_button"

def paramsName : ParamsFunction → String
  | .speed => "speed"
  | .rotation => "rotation"
  | .brake => "brake"

def robotTarget : RobotFunction → BoundClass × String
  | .drive => (.drivetrain, "drive")
  | .raiseArms => (.lifter, "move_up")
  | .lowerArms => (.lifter, "move_down")
  | .stopLifter => (.lifter, "stop")
  | .shooting => (.shooter, "shooting")
  | .intakeRunning => (.shooter, "loading")
  | .intake => (.shooter, "intake")
  | .shoot => (.shooter, "shoot")
  | .stopShooter => (.shooter, "stop")

/-- The member and the function of it that a call is for. -/
def target : LuaCall → BoundClass × String
  | .cxx cls name => (cls, name)
  | .gamepad function => (.gamepad, gamepadName function)
  | .params function => (.params, paramsName function)
  | .robot function => robotTarget function

/-- The call goes through `gamepad.lua`, which has copied functions, or to the one
function of `cxx.gamepad` that is not released. -/
def MayEscape : LuaCall → Prop
  | .cxx cls name => cls = .gamepad ∧ name = "pov"
  | .gamepad _ => True
  | _ => False

end LuaCall

namespace LuaBindings

variable {ι : Type*}

/-- The bindings that the constructor of `RobotMain` makes. -/
def constructor (self : BoundClass → ι) : List (LuaAction ι) :=
  [.bind .params (some (self .params)), .bind .shooter (some (self .shooter)),
    .bind .lifter (some (self .lifter)), .bind .drivetrain (some (self .drivetrain)),
    .bind .gamepad (some (self .gamepad))]

/-- The bindings that its destructor releases. -/
def destructor : List (LuaAction ι) :=
  [.bind .params none, .bind .shooter none, .bind .lifter none, .bind .drivetrain none,
    .bind .gamepad none]

/-- No module has been loaded yet. -/
structure Unloaded (lua : LuaBindings ι) : Prop where
  gamepad : lua.gamepad = none
  params : lua.params = none
  robot : lua.robot = none

/-- The function of the call exists, and its module has been loaded. -/
def Knows (lua : LuaBindings ι) : LuaCall → Prop
  | .cxx cls name => name ∈ cls.installed
  | .gamepad _ => lua.gamepad.isSome
  | .params _ => lua.params.isSome
  | .robot _ => lua.robot.isSome

/-- What `cxx` and the modules refer to is the given table of each class. -/
structure Holds (refs : BoundClass → Nat) (tables : BoundClass → LuaTable ι)
    (lua : LuaBindings ι) : Prop where
  cxx : lua.cxx = some fun cls => some (refs cls)
  tables : ∀ cls, lua.tables[refs cls]? = some (tables cls)
  gamepad : ∀ M ∈ lua.gamepad, M.impl = refs .gamepad
  params : ∀ M ∈ lua.params, M.impl = some (refs .params)
  robot : ∀ M ∈ lua.robot, M = ⟨some (refs .drivetrain), some (refs .lifter), some (refs .shooter)⟩

/-- The functions that `gamepad.lua` has copied are those of a table. -/
def Copies (table : LuaTable ι) (lua : LuaBindings ι) : Prop :=
  ∀ M ∈ lua.gamepad, M.rawAxis = table "raw_axis" ∧ M.rawButton = table "raw_button" ∧
    M.rawButtonPressed = table "raw_button_pressed" ∧
      M.rawButtonReleased = table "raw_button_released"

/-- The table of a class that is bound to an instance. -/
def boundTable (self : BoundClass → ι) (cls : BoundClass) : LuaTable ι :=
  LuaTable.empty.setAll cls.installed (.bound cls (self cls))

section Holds

variable {refs : BoundClass → Nat} {tables : BoundClass → LuaTable ι} {lua : LuaBindings ι}

theorem Holds.field_eq (holds : Holds refs tables lua) (cls : BoundClass) (name : String) :
    lua.field (some (refs cls)) name = tables cls name := by
  simp [field, holds.tables cls]

theorem Holds.act (holds : Holds refs tables lua) {action : LuaAction ι}
    (notBind : ∀ cls self, action ≠ .bind cls self) : Holds refs tables (lua.act action) := by
  obtain ⟨cxx, tables', gamepad, params, robot⟩ := holds
  cases action with
  | bind cls self => exact absurd rfl (notBind cls self)
  | call call => exact ⟨cxx, tables', gamepad, params, robot⟩
  | requireGamepad =>
      simp only [LuaBindings.act, requireGamepad]
      cases loaded : lua.gamepad with
      | some M => exact ⟨cxx, tables', gamepad, params, robot⟩
      | none =>
          simp only [cxx, Option.bind_some]
          exact ⟨rfl, tables', by simp, params, robot⟩
  | requireParams =>
      simp only [LuaBindings.act, requireParams]
      cases loaded : lua.params with
      | some M => exact ⟨cxx, tables', gamepad, params, robot⟩
      | none =>
          simp only [cxx]
          exact ⟨rfl, tables', gamepad, by simp, robot⟩
  | requireRobot =>
      simp only [LuaBindings.act, requireRobot]
      cases loaded : lua.robot with
      | some M => exact ⟨cxx, tables', gamepad, params, robot⟩
      | none =>
          simp only [cxx]
          exact ⟨rfl, tables', gamepad, params, by simp⟩

theorem Copies.act (holds : Holds refs tables lua) (copies : Copies (tables .gamepad) lua)
    {action : LuaAction ι} (notBind : ∀ cls self, action ≠ .bind cls self) :
    Copies (tables .gamepad) (lua.act action) := by
  cases action with
  | bind cls self => exact absurd rfl (notBind cls self)
  | call call => exact copies
  | requireGamepad =>
      simp only [LuaBindings.act, requireGamepad]
      cases loaded : lua.gamepad with
      | some M => exact copies
      | none =>
          simp only [holds.cxx, Option.bind_some]
          rintro M ⟨⟩
          exact ⟨holds.field_eq .gamepad _, holds.field_eq .gamepad _, holds.field_eq .gamepad _,
            holds.field_eq .gamepad _⟩
  | requireParams =>
      simp only [LuaBindings.act, requireParams]
      split <;> exact copies
  | requireRobot =>
      simp only [LuaBindings.act, requireRobot]
      split <;> exact copies

/-- Without binding or releasing, bots only load modules. -/
theorem Holds.foldl (holds : Holds refs tables lua) {actions : List (LuaAction ι)}
    (noBind : ∀ action ∈ actions, ∀ cls self, action ≠ .bind cls self) :
    Holds refs tables (actions.foldl LuaBindings.act lua) ∧
      (Copies (tables .gamepad) lua →
        Copies (tables .gamepad) (actions.foldl LuaBindings.act lua)) := by
  induction actions generalizing lua with
  | nil => exact ⟨holds, id⟩
  | cons action rest ih =>
      obtain ⟨here, later⟩ := List.forall_mem_cons.mp noBind
      obtain ⟨holdsLast, copiesLast⟩ := ih (holds.act here) later
      exact ⟨holdsLast, fun copies => copiesLast (copies.act holds here)⟩

theorem Holds.unbind (holds : Holds refs tables lua) (distinct : Function.Injective refs)
    (cls : BoundClass) :
    Holds refs (Function.update tables cls ((tables cls).setAll cls.cleared fun _ => .noop))
      (lua.bind cls none) := by
  obtain ⟨cxx, tables', gamepad, params, robot⟩ := holds
  simp only [LuaBindings.bind, cxx, Option.getD_some]
  refine ⟨rfl, ?_, gamepad, params, robot⟩
  intro other
  by_cases same : other = cls
  · subst same
    simp [tables']
  · have apart : refs cls ≠ refs other := fun equal => same (distinct equal).symm
    simp [tables', apart, same]

/-- A call of a function that exists executes the function of its table, unless
`gamepad.lua` has copied another one. -/
theorem Holds.call_eq (holds : Holds refs tables lua) {call : LuaCall} (known : lua.Knows call)
    (copied : call.MayEscape → Copies (tables .gamepad) lua) :
    lua.call call = tables call.target.1 call.target.2 := by
  cases call with
  | cxx cls name =>
      rw [LuaBindings.call, holds.cxx, Option.bind_some]
      exact holds.field_eq cls name
  | gamepad function =>
      obtain ⟨M, loaded⟩ := Option.isSome_iff_exists.mp known
      obtain ⟨rawAxis, rawButton, pressed, released⟩ := copied trivial M loaded
      have impl := holds.gamepad M loaded
      rw [LuaBindings.call, loaded, Option.bind_some]
      cases function with
      | pov =>
          rw [callGamepad, impl]
          exact holds.field_eq .gamepad "pov"
      | _ => first | exact rawAxis | exact rawButton | exact pressed | exact released
  | params function =>
      obtain ⟨M, loaded⟩ := Option.isSome_iff_exists.mp known
      rw [LuaBindings.call, loaded, Option.bind_some]
      cases function <;>
        simp only [callParams, holds.params M loaded] <;> exact holds.field_eq .params _
  | robot function =>
      obtain ⟨M, loaded⟩ := Option.isSome_iff_exists.mp known
      rw [LuaBindings.call, loaded, Option.bind_some]
      cases function <;>
        simp only [callRobot, holds.robot M loaded] <;> exact holds.field_eq _ _

end Holds

/-- The place of the table of a class among those of the constructor. -/
def slot : BoundClass → Nat
  | .params => 0
  | .shooter => 1
  | .lifter => 2
  | .drivetrain => 3
  | .gamepad => 4

theorem slot_injective : Function.Injective slot := by
  intro first second same
  cases first <;> cases second <;> first | rfl | cases same

theorem holds_constructor {lua : LuaBindings ι} (unloaded : lua.Unloaded)
    (self : BoundClass → ι) :
    Holds (fun cls => lua.tables.length + slot cls) (boundTable self)
      ((constructor self).foldl act lua) := by
  have constructed : (constructor self).foldl act lua =
      { lua with
        tables := lua.tables ++
          [boundTable self .params, boundTable self .shooter, boundTable self .lifter,
            boundTable self .drivetrain, boundTable self .gamepad]
        cxx := some fun cls => some (lua.tables.length + slot cls) } := by
    simp only [constructor, List.foldl_cons, List.foldl_nil, act, bind, boundTable,
      List.append_assoc, List.length_append, List.length_cons, List.length_nil]
    congr 2
    funext cls
    cases cls <;> simp [Function.update, slot]
  rw [constructed]
  refine ⟨rfl, ?_, by simp [unloaded.gamepad], by simp [unloaded.params], by simp [unloaded.robot]⟩
  intro cls
  rw [List.getElem?_append_right (by omega)]
  cases cls <;> simp [slot]

theorem holds_destructor {refs : BoundClass → Nat} (distinct : Function.Injective refs)
    {tables : BoundClass → LuaTable ι} {lua : LuaBindings ι} (holds : Holds refs tables lua) :
    Holds refs (fun cls => (tables cls).setAll cls.cleared fun _ => .noop)
      (destructor.foldl act lua) := by
  have released := ((((holds.unbind distinct .params).unbind distinct .shooter).unbind distinct
    .lifter).unbind distinct .drivetrain).unbind distinct .gamepad
  convert released using 2 with cls
  · cases cls <;> rfl
  · rfl

theorem target_mem_installed {lua : LuaBindings ι} {call : LuaCall} (known : lua.Knows call) :
    call.target.2 ∈ call.target.1.installed := by
  cases call with
  | cxx cls name => exact known
  | gamepad function => cases function <;> decide
  | params function => cases function <;> decide
  | robot function => cases function <;> decide

theorem target_mem_cleared {lua : LuaBindings ι} {call : LuaCall} (known : lua.Knows call)
    (lost : ¬ call.MayEscape) : call.target.2 ∈ call.target.1.cleared := by
  have released (cls : BoundClass) :
      ∀ name ∈ cls.installed, cls = .gamepad ∧ name = "pov" ∨ name ∈ cls.cleared := by
    cases cls <;> decide
  cases call with
  | cxx cls name => exact (released cls name known).resolve_left lost
  | gamepad function => exact absurd trivial lost
  | params function => cases function <;> decide
  | robot function => cases function <;> decide

/-- **The bindings of a robot.** Bots may load the modules and call their
functions in any order.  While the robot exists, every function of `cxx` and of
the three modules executes the function of its name of the member it is for, and
no call finds nothing.  After the destructor all of them are empty, except those
that go through `gamepad.lua`, and the `pov` of `cxx.gamepad`. -/
theorem calls_reach_robot {lua : LuaBindings ι} (unloaded : lua.Unloaded)
    (self : BoundClass → ι) {during after : List (LuaAction ι)}
    (noBind : ∀ action ∈ during ++ after, ∀ cls self, action ≠ .bind cls self) :
    let alive := during.foldl act ((constructor self).foldl act lua)
    let gone := after.foldl act (destructor.foldl act alive)
    (∀ call, alive.Knows call → alive.call call =
        some (.bound call.target.1 (self call.target.1) call.target.2)) ∧
      ∀ call, gone.Knows call → ¬ call.MayEscape → gone.call call = some .noop := by
  intro alive gone
  obtain ⟨noBindDuring, noBindAfter⟩ := List.forall_mem_append.mp noBind
  have distinct : Function.Injective fun cls => lua.tables.length + slot cls :=
    fun _ _ same => slot_injective (Nat.add_left_cancel same)
  have constructed := holds_constructor unloaded self
  obtain ⟨holds, copies⟩ := constructed.foldl noBindDuring
  have noCopy : Copies (boundTable self .gamepad) ((constructor self).foldl act lua) := by
    intro M loaded
    have same : ((constructor self).foldl act lua).gamepad = lua.gamepad := rfl
    simp [same, unloaded.gamepad] at loaded
  obtain ⟨released, -⟩ := (holds_destructor distinct holds).foldl noBindAfter
  constructor
  · intro call known
    rw [holds.call_eq known fun _ => copies noCopy, boundTable, LuaTable.setAll_apply,
      if_pos (target_mem_installed known)]
  · intro call known lost
    rw [released.call_eq known fun escapes => absurd escapes lost, LuaTable.setAll_apply,
      if_pos (target_mem_cleared known lost)]

/-- A bot that loads `robot` and `gamepad`, and one that loads `params` too late. -/
theorem calls_reach_robot_bench :
    let alive := [LuaAction.requireRobot, .call (.robot .shoot), .requireGamepad].foldl act
      ((constructor fun cls => cls).foldl act fresh)
    let gone := [LuaAction.requireParams].foldl act (destructor.foldl act alive)
    (∀ call, alive.Knows call → alive.call call =
        some (.bound call.target.1 call.target.1 call.target.2)) ∧
      ∀ call, gone.Knows call → ¬ call.MayEscape → gone.call call = some .noop :=
  calls_reach_robot (⟨rfl, rfl, rfl⟩ : Unloaded (fresh : LuaBindings BoundClass)) (fun cls => cls)
    (by simp)

end LuaBindings

end RobotFirmware
