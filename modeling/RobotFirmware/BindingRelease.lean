import Mathlib.Data.List.Induction
import RobotFirmware.LuaBindings

/-!
# Releasing what was bound

A ledger keeps, for every table of `cxx`, the class, the instance and whether
the table has been cleared.  The ledger determines the tables and what the
modules hold, so it says which calls execute a function of an instance that is
no longer bound.
-/

namespace RobotFirmware

/-- A table of `cxx`: whose functions `bind (self)` has put there, and whether
`bind (nullptr)` has cleared it. -/
structure BindingEntry (ι : Type*) where
  cls : BoundClass
  self : ι
  released : Bool

namespace BindingEntry

variable {ι : Type*}

def release (entry : BindingEntry ι) : BindingEntry ι :=
  { entry with released := true }

/-- The functions of the table. -/
def table (entry : BindingEntry ι) : LuaTable ι :=
  let bound := LuaTable.empty.setAll entry.cls.installed (.bound entry.cls entry.self)
  if entry.released then bound.setAll entry.cls.cleared fun _ => .noop else bound

theorem table_apply (entry : BindingEntry ι) (name : String) :
    entry.table name =
      if entry.released = true ∧ name ∈ entry.cls.cleared then some .noop
      else if name ∈ entry.cls.installed then some (.bound entry.cls entry.self name)
      else none := by
  cases released : entry.released with
  | false => simp [table, released, LuaTable.setAll_apply, LuaTable.empty]
  | true => simp [table, released, LuaTable.setAll_apply, LuaTable.empty]

theorem table_release (entry : BindingEntry ι) :
    entry.release.table = entry.table.setAll entry.cls.cleared fun _ => .noop := by
  funext name
  rw [table_apply, LuaTable.setAll_apply, table_apply, release]
  by_cases cleared : name ∈ entry.cls.cleared
  · simp [cleared]
  · simp [cleared]

/-- The class has never been unbound, or the instance has been bound since. -/
def Fresh (past : List (LuaAction ι)) (entry : BindingEntry ι) : Prop :=
  ∀ instances, boundSince past entry.cls = some instances → entry.self ∈ instances

/-- A function of the table is stale exactly when it is neither cleared nor of
a bound instance. -/
theorem not_stale_iff (past : List (LuaAction ι)) (entry : BindingEntry ι) (name : String) :
    (∀ function, entry.table name = some function → ¬ function.Stale past) ↔
      (name ∈ entry.cls.installed →
        entry.released = true ∧ name ∈ entry.cls.cleared ∨ entry.Fresh past) := by
  rw [table_apply]
  split
  next cleared => simp [cleared, LuaFunction.Stale]
  next kept =>
    split
    next installed => simp [kept, installed, LuaFunction.Stale, Fresh]
    next missing => simp [missing]

end BindingEntry

/-- What has been bound and released, and what the modules hold.  The module
`gamepad` has copied some functions of its table, as it was then. -/
structure BindingLedger (ι : Type*) where
  entries : List (BindingEntry ι)
  cxx : Option (BoundClass → Option Nat)
  gamepad : Option (Nat × BindingEntry ι)
  params : Option ParamsModule
  robot : Option RobotModule

namespace BindingLedger

variable {ι : Type*}

def empty : BindingLedger ι :=
  ⟨[], none, none, none, none⟩

def bind (ledger : BindingLedger ι) (cls : BoundClass) (self : Option ι) : BindingLedger ι :=
  let cxx := ledger.cxx.getD fun _ => none
  match self with
  | some self =>
      { ledger with
        entries := ledger.entries ++ [⟨cls, self, false⟩]
        cxx := some (Function.update cxx cls (some ledger.entries.length)) }
  | none =>
      match cxx cls with
      | none => { ledger with cxx := some cxx }
      | some ref =>
          { ledger with
            entries := ledger.entries.modify ref .release
            cxx := some cxx }

def requireGamepad (ledger : BindingLedger ι) : BindingLedger ι :=
  match ledger.gamepad with
  | some _ => ledger
  | none =>
      match ledger.cxx.bind fun cxx => cxx .gamepad with
      | none => ledger
      | some impl =>
          match ledger.entries[impl]? with
          | none => ledger
          | some entry => { ledger with gamepad := some (impl, entry) }

def requireParams (ledger : BindingLedger ι) : BindingLedger ι :=
  match ledger.params, ledger.cxx with
  | none, some cxx => { ledger with params := some ⟨cxx .params⟩ }
  | _, _ => ledger

def requireRobot (ledger : BindingLedger ι) : BindingLedger ι :=
  match ledger.robot, ledger.cxx with
  | none, some cxx => { ledger with robot := some ⟨cxx .drivetrain, cxx .lifter, cxx .shooter⟩ }
  | _, _ => ledger

def act (ledger : BindingLedger ι) : LuaAction ι → BindingLedger ι
  | .bind cls self => ledger.bind cls self
  | .requireGamepad => ledger.requireGamepad
  | .requireParams => ledger.requireParams
  | .requireRobot => ledger.requireRobot
  | .call _ => ledger

/-- The entry of a table that a module or `cxx` refers to, if any. -/
def Holds (ledger : BindingLedger ι) (cls : BoundClass) (table : Option Nat) : Prop :=
  ∀ ref, table = some ref → ∃ entry, ledger.entries[ref]? = some entry ∧ entry.cls = cls

/-- A table in `cxx` has been cleared or bound since the last unbinding. -/
structure IsCurrent (past : List (LuaAction ι)) (entry : BindingEntry ι) : Prop where
  released : boundSince past entry.cls = some [] → entry.released = true
  bound : ∀ instances, boundSince past entry.cls = some instances → instances ≠ [] →
    entry.self ∈ instances

/-- The tables of `cxx` are current, and every table is of the class in whose
place it is. -/
structure WellFormed (past : List (LuaAction ι)) (ledger : BindingLedger ι) : Prop where
  cxx : ∀ cxx, ledger.cxx = some cxx → ∀ cls ref, cxx cls = some ref →
    ∃ entry, ledger.entries[ref]? = some entry ∧ entry.cls = cls ∧ IsCurrent past entry
  gamepad : ∀ impl copied, ledger.gamepad = some (impl, copied) → copied.cls = .gamepad ∧
    ∃ entry, ledger.entries[impl]? = some entry ∧ entry.cls = .gamepad ∧ entry.self = copied.self
  params : ∀ M, ledger.params = some M → ledger.Holds .params M.impl
  robot : ∀ M, ledger.robot = some M → ledger.Holds .drivetrain M.drivetrain ∧
    ledger.Holds .lifter M.lifter ∧ ledger.Holds .shooter M.shooter

/-- No table is lost, or changes its class or its instance. -/
def Keeps (before after : BindingLedger ι) : Prop :=
  ∀ (ref : Nat) (entry : BindingEntry ι), before.entries[ref]? = some entry →
    ∃ later, after.entries[ref]? = some later ∧ later.cls = entry.cls ∧ later.self = entry.self

theorem Holds.keep {before after : BindingLedger ι} {cls : BoundClass} {table : Option Nat}
    (holds : before.Holds cls table) (keeps : Keeps before after) : after.Holds cls table := by
  intro ref refers
  obtain ⟨entry, found, rfl⟩ := holds ref refers
  obtain ⟨later, found', same, -⟩ := keeps ref entry found
  exact ⟨later, found', same⟩

theorem keeps_bind (ledger : BindingLedger ι) (cls : BoundClass) (self : Option ι) :
    Keeps ledger (ledger.bind cls self) := by
  intro ref entry found
  have inside : ref < ledger.entries.length := (List.getElem?_eq_some_iff.mp found).1
  cases self with
  | some self =>
      refine ⟨entry, ?_, rfl, rfl⟩
      simp only [bind]
      rw [List.getElem?_append_left inside, found]
  | none =>
      simp only [bind]
      split
      next absent => exact ⟨entry, found, rfl, rfl⟩
      next cleared present =>
        by_cases here : cleared = ref
        · refine ⟨entry.release, ?_, rfl, rfl⟩
          simp [here, found]
        · refine ⟨entry, ?_, rfl, rfl⟩
          simp [here, found]

theorem IsCurrent.of_boundSince_eq {past past' : List (LuaAction ι)} {entry : BindingEntry ι}
    (current : IsCurrent past entry)
    (same : boundSince past' entry.cls = boundSince past entry.cls) : IsCurrent past' entry :=
  ⟨fun unbound => current.released (same.symm.trans unbound),
    fun instances since => current.bound instances (same.symm.trans since)⟩

theorem bind_frame (ledger : BindingLedger ι) (cls : BoundClass) (self : Option ι) :
    (ledger.bind cls self).gamepad = ledger.gamepad ∧
      (ledger.bind cls self).params = ledger.params ∧
        (ledger.bind cls self).robot = ledger.robot := by
  cases self with
  | some self => exact ⟨rfl, rfl, rfl⟩
  | none =>
      simp only [bind]
      split <;> exact ⟨rfl, rfl, rfl⟩

namespace WellFormed

variable {past : List (LuaAction ι)} {ledger : BindingLedger ι}

theorem empty : WellFormed ([] : List (LuaAction ι)) .empty where
  cxx := by simp [BindingLedger.empty]
  gamepad := by simp [BindingLedger.empty]
  params := by simp [BindingLedger.empty]
  robot := by simp [BindingLedger.empty]

theorem of_bind (wellFormed : WellFormed past ledger) {past' : List (LuaAction ι)}
    {cls : BoundClass} {self : Option ι}
    (cxx : ∀ cxx, (ledger.bind cls self).cxx = some cxx → ∀ cls' ref, cxx cls' = some ref →
      ∃ entry, (ledger.bind cls self).entries[ref]? = some entry ∧ entry.cls = cls' ∧
        IsCurrent past' entry) :
    WellFormed past' (ledger.bind cls self) where
  cxx := cxx
  gamepad := by
    rw [(ledger.bind_frame cls self).1]
    intro impl copied held
    obtain ⟨ofGamepad, entry, found, entryCls, entrySelf⟩ := wellFormed.gamepad impl copied held
    obtain ⟨later, found', laterCls, laterSelf⟩ := keeps_bind ledger cls self impl entry found
    exact ⟨ofGamepad, later, found', laterCls.trans entryCls, laterSelf.trans entrySelf⟩
  params := by
    rw [(ledger.bind_frame cls self).2.1]
    exact fun M held => (wellFormed.params M held).keep (keeps_bind ledger cls self)
  robot := by
    rw [(ledger.bind_frame cls self).2.2]
    intro M held
    have keeps := keeps_bind ledger cls self
    obtain ⟨drivetrain, lifter, shooter⟩ := wellFormed.robot M held
    exact ⟨drivetrain.keep keeps, lifter.keep keeps, shooter.keep keeps⟩

theorem exists_of_getD (wellFormed : WellFormed past ledger) {cls : BoundClass} {ref : Nat}
    (refers : ledger.cxx.getD (fun _ => none) cls = some ref) :
    ∃ entry, ledger.entries[ref]? = some entry ∧ entry.cls = cls ∧ IsCurrent past entry := by
  cases cxx : ledger.cxx with
  | none => simp [cxx] at refers
  | some tables =>
      rw [cxx, Option.getD_some] at refers
      exact wellFormed.cxx tables cxx cls ref refers

theorem bind_some (wellFormed : WellFormed past ledger) (cls : BoundClass) (self : ι) :
    WellFormed (past ++ [.bind cls (some self)]) (ledger.bind cls (some self)) := by
  apply wellFormed.of_bind
  intro cxx equal other ref refers
  simp only [bind, Option.some.injEq] at equal
  subst equal
  by_cases here : other = cls
  · subst here
    obtain rfl : ledger.entries.length = ref := by simpa using refers
    refine ⟨⟨other, self, false⟩, by simp [bind], rfl, ?_, ?_⟩
    · simp [boundSince_append_bind]
    · intro instances since _
      rw [boundSince_append_bind, if_pos rfl, Option.map_eq_some_iff] at since
      obtain ⟨earlier, -, rfl⟩ := since
      exact List.mem_cons_self
  · rw [Function.update_of_ne here] at refers
    obtain ⟨entry, found, rfl, current⟩ := wellFormed.exists_of_getD refers
    have inside : ref < ledger.entries.length := (List.getElem?_eq_some_iff.mp found).1
    refine ⟨entry, ?_, rfl, current.of_boundSince_eq ?_⟩
    · simp only [bind]
      rw [List.getElem?_append_left inside, found]
    · rw [boundSince_append_bind, if_neg (Ne.symm here)]

theorem bind_none (wellFormed : WellFormed past ledger) (cls : BoundClass) :
    WellFormed (past ++ [.bind cls none]) (ledger.bind cls none) := by
  apply wellFormed.of_bind
  intro cxx equal other ref refers
  obtain rfl : ledger.cxx.getD (fun _ => none) = cxx := by
    simp only [bind] at equal
    split at equal <;> simpa using equal
  obtain ⟨entry, found, rfl, current⟩ := wellFormed.exists_of_getD refers
  by_cases here : entry.cls = cls
  · subst here
    refine ⟨entry.release, ?_, rfl, fun _ => rfl, ?_⟩
    · simp [bind, refers, found]
    · intro instances since bound
      rw [boundSince_append_unbind] at since
      exact absurd (Option.some.inj ((if_pos rfl).symm.trans since)).symm bound
  · refine ⟨entry, ?_, rfl, current.of_boundSince_eq ?_⟩
    · simp only [bind]
      split
      next absent => exact found
      next cleared present =>
        obtain ⟨unbound, found', ofClass, -⟩ := wellFormed.exists_of_getD present
        -- The cleared table is of the unbound class, so it is not this one.
        have other : cleared ≠ ref := by
          rintro rfl
          obtain rfl : entry = unbound := Option.some.inj (found.symm.trans found')
          exact here ofClass
        simp [other, found]
    · rw [boundSince_append_unbind, if_neg (Ne.symm here)]

theorem of_not_bind (wellFormed : WellFormed past ledger) {action : LuaAction ι}
    (notBind : ∀ cls self, action ≠ .bind cls self) : WellFormed (past ++ [action]) ledger where
  cxx := by
    intro cxx equal cls ref refers
    obtain ⟨entry, found, ofClass, current⟩ := wellFormed.cxx cxx equal cls ref refers
    exact ⟨entry, found, ofClass,
      current.of_boundSince_eq (boundSince_append_of_not_bind past entry.cls notBind)⟩
  gamepad := wellFormed.gamepad
  params := wellFormed.params
  robot := wellFormed.robot

theorem holds (wellFormed : WellFormed past ledger) {cxx : BoundClass → Option Nat}
    (equal : ledger.cxx = some cxx) (cls : BoundClass) : ledger.Holds cls (cxx cls) := by
  intro ref refers
  obtain ⟨entry, found, ofClass, -⟩ := wellFormed.cxx cxx equal cls ref refers
  exact ⟨entry, found, ofClass⟩

theorem requireGamepad (wellFormed : WellFormed past ledger) :
    WellFormed past ledger.requireGamepad := by
  unfold BindingLedger.requireGamepad
  split
  · exact wellFormed
  · split
    · exact wellFormed
    next impl current =>
      split
      · exact wellFormed
      next entry found =>
        obtain ⟨cxx, equal, refers⟩ := Option.bind_eq_some_iff.mp current
        obtain ⟨entry', found', ofClass⟩ := wellFormed.holds equal .gamepad impl refers
        obtain rfl : entry = entry' := Option.some.inj (found.symm.trans found')
        refine ⟨wellFormed.cxx, ?_, wellFormed.params, wellFormed.robot⟩
        rintro _ _ held
        obtain ⟨rfl, rfl⟩ : impl = _ ∧ entry = _ := by simpa using held
        exact ⟨ofClass, entry, found, ofClass, rfl⟩

theorem requireParams (wellFormed : WellFormed past ledger) :
    WellFormed past ledger.requireParams := by
  unfold BindingLedger.requireParams
  split
  next cxx absent equal =>
    refine ⟨wellFormed.cxx, wellFormed.gamepad, ?_, wellFormed.robot⟩
    rintro _ held
    obtain rfl : (⟨cxx .params⟩ : ParamsModule) = _ := by simpa using held
    exact wellFormed.holds equal .params
  · exact wellFormed

theorem requireRobot (wellFormed : WellFormed past ledger) :
    WellFormed past ledger.requireRobot := by
  unfold BindingLedger.requireRobot
  split
  next cxx absent equal =>
    refine ⟨wellFormed.cxx, wellFormed.gamepad, wellFormed.params, ?_⟩
    rintro _ held
    obtain rfl : (⟨cxx .drivetrain, cxx .lifter, cxx .shooter⟩ : RobotModule) = _ := by
      simpa using held
    exact ⟨wellFormed.holds equal .drivetrain, wellFormed.holds equal .lifter,
      wellFormed.holds equal .shooter⟩
  · exact wellFormed

theorem act (wellFormed : WellFormed past ledger) (action : LuaAction ι) :
    WellFormed (past ++ [action]) (ledger.act action) := by
  cases action with
  | bind cls self =>
      cases self with
      | some self => exact wellFormed.bind_some cls self
      | none => exact wellFormed.bind_none cls
  | requireGamepad => exact wellFormed.requireGamepad.of_not_bind (by simp)
  | requireParams => exact wellFormed.requireParams.of_not_bind (by simp)
  | requireRobot => exact wellFormed.requireRobot.of_not_bind (by simp)
  | call call => exact wellFormed.of_not_bind (by simp)

end WellFormed

/-- The Lua state of a ledger. -/
def toLua (ledger : BindingLedger ι) : LuaBindings ι where
  tables := ledger.entries.map BindingEntry.table
  cxx := ledger.cxx
  gamepad := ledger.gamepad.map fun (impl, entry) =>
    { impl := impl
      rawAxis := entry.table "raw_axis"
      rawButton := entry.table "raw_button"
      rawButtonPressed := entry.table "raw_button_pressed"
      rawButtonReleased := entry.table "raw_button_released" }
  params := ledger.params
  robot := ledger.robot

theorem field_toLua (ledger : BindingLedger ι) (table : Option Nat) (name : String) :
    ledger.toLua.field table name =
      table.bind fun ref => ledger.entries[ref]?.bind fun entry => entry.table name := by
  cases table with
  | none => rfl
  | some ref =>
      simp only [LuaBindings.field, toLua, List.getElem?_map, Option.bind_some]
      cases ledger.entries[ref]? <;> rfl

section Simulation

variable {past : List (LuaAction ι)} {ledger : BindingLedger ι}

theorem map_table_modify {entries : List (BindingEntry ι)} {ref : Nat} {entry : BindingEntry ι}
    (found : entries[ref]? = some entry) :
    (entries.modify ref .release).map BindingEntry.table =
      (entries.map BindingEntry.table).modify ref fun table =>
        table.setAll entry.cls.cleared fun _ => .noop := by
  refine List.ext_getElem? fun index => ?_
  rw [List.getElem?_map, List.getElem?_modify, List.getElem?_modify, List.getElem?_map]
  by_cases here : ref = index
  · subst here
    simp [found, BindingEntry.table_release]
  · simp [here]

theorem toLua_bind (wellFormed : WellFormed past ledger) (cls : BoundClass) (self : Option ι) :
    (ledger.bind cls self).toLua = ledger.toLua.bind cls self := by
  cases self with
  | some self => simp [bind, LuaBindings.bind, toLua, BindingEntry.table]
  | none =>
      cases present : ledger.cxx.getD (fun _ => none) cls with
      | none => simp [bind, LuaBindings.bind, toLua, present]
      | some ref =>
          obtain ⟨entry, found, rfl, -⟩ := wellFormed.exists_of_getD present
          simp only [bind, LuaBindings.bind, toLua, present, map_table_modify found]

theorem toLua_requireGamepad (wellFormed : WellFormed past ledger) :
    ledger.requireGamepad.toLua = ledger.toLua.requireGamepad := by
  cases loaded : ledger.gamepad with
  | some M => simp [requireGamepad, LuaBindings.requireGamepad, loaded, toLua]
  | none =>
      cases current : ledger.cxx.bind fun cxx => cxx .gamepad with
      | none => simp [requireGamepad, LuaBindings.requireGamepad, loaded, current, toLua]
      | some impl =>
          obtain ⟨cxx, equal, refers⟩ := Option.bind_eq_some_iff.mp current
          obtain ⟨entry, found, -⟩ := wellFormed.holds equal .gamepad impl refers
          have field (name : String) :
              ledger.toLua.field (some impl) name = entry.table name := by
            rw [field_toLua, Option.bind_some, found, Option.bind_some]
          have absent : ledger.toLua.gamepad = none := by simp [toLua, loaded]
          have same : (ledger.toLua.cxx.bind fun cxx => cxx .gamepad) = some impl := current
          simp only [requireGamepad, LuaBindings.requireGamepad, loaded, current, found, absent,
            same, field]
          rfl

theorem toLua_requireParams (ledger : BindingLedger ι) :
    ledger.requireParams.toLua = ledger.toLua.requireParams := by
  unfold requireParams LuaBindings.requireParams
  cases params : ledger.params <;> cases cxx : ledger.cxx <;> simp [toLua, params, cxx]

theorem toLua_requireRobot (ledger : BindingLedger ι) :
    ledger.requireRobot.toLua = ledger.toLua.requireRobot := by
  unfold requireRobot LuaBindings.requireRobot
  cases robot : ledger.robot <;> cases cxx : ledger.cxx <;> simp [toLua, robot, cxx]

theorem toLua_act (wellFormed : WellFormed past ledger) (action : LuaAction ι) :
    (ledger.act action).toLua = ledger.toLua.act action := by
  cases action with
  | bind cls self => exact toLua_bind wellFormed cls self
  | requireGamepad => exact toLua_requireGamepad wellFormed
  | requireParams => exact toLua_requireParams ledger
  | requireRobot => exact toLua_requireRobot ledger
  | call call => rfl

end Simulation

/-- The ledger after some actions in a new Lua state. -/
def after (past : List (LuaAction ι)) : BindingLedger ι :=
  past.foldl act empty

/-- The ledger describes the Lua state all the time. -/
theorem describes_after (past : List (LuaAction ι)) :
    WellFormed past (after past) ∧ (after past).toLua = past.foldl LuaBindings.act .fresh := by
  induction past using List.reverseRecOn with
  | nil => exact ⟨.empty, rfl⟩
  | append_singleton past action ih =>
      obtain ⟨wellFormed, describes⟩ := ih
      rw [after, List.foldl_append, List.foldl_append, ← after, ← describes]
      exact ⟨wellFormed.act action, toLua_act wellFormed action⟩

/-- The table behind a reference is cleared, or of an instance that is not
stale. -/
def Released (past : List (LuaAction ι)) (ledger : BindingLedger ι) (table : Option Nat) : Prop :=
  ∀ ref entry, table = some ref → ledger.entries[ref]? = some entry →
    entry.released = true ∨ entry.Fresh past

/-- The table that a function of `robot.lua` uses. -/
def robotTable (M : RobotModule) : RobotFunction → Option Nat
  | .drive => M.drivetrain
  | .raiseArms => M.lifter
  | .lowerArms => M.lifter
  | .stopLifter => M.lifter
  | _ => M.shooter

/-- The calls that reach no stale instance.  Through `cxx` only `pov` reaches
one, while the gamepad is unbound.  A function that `gamepad.lua` has copied
must have been empty then or belong to a fresh instance, and a table in which a
module looks functions up must be cleared or belong to one. -/
def Permits (past : List (LuaAction ι)) (ledger : BindingLedger ι) : LuaCall → Prop
  | .cxx cls name => cls = .gamepad → name = "pov" → boundSince past .gamepad = some [] →
      ∀ cxx, ledger.cxx = some cxx → cxx .gamepad = none
  | .gamepad .pov => ∀ impl copied, ledger.gamepad = some (impl, copied) → copied.Fresh past
  | .gamepad _ => ∀ impl copied, ledger.gamepad = some (impl, copied) →
      copied.released = true ∨ copied.Fresh past
  | .params _ => ∀ M, ledger.params = some M → ledger.Released past M.impl
  | .robot function => ∀ M, ledger.robot = some M → ledger.Released past (robotTable M function)

section Calls

variable {past : List (LuaAction ι)} {ledger : BindingLedger ι}

/-- A function that is cleared with its table, looked up at the call. -/
theorem field_not_stale_iff {cls : BoundClass} {table : Option Nat}
    (holds : ledger.Holds cls table) {name : String} (installed : name ∈ cls.installed)
    (cleared : name ∈ cls.cleared) :
    (∀ function, ledger.toLua.field table name = some function → ¬ function.Stale past) ↔
      ledger.Released past table := by
  rw [field_toLua]
  cases table with
  | none => simp [Released]
  | some ref =>
      obtain ⟨entry, found, rfl⟩ := holds ref rfl
      rw [Option.bind_some, found, Option.bind_some, entry.not_stale_iff]
      simp only [installed, cleared, and_true, true_implies]
      constructor
      · rintro fine _ entry' ⟨⟩ found'
        obtain rfl : entry = entry' := Option.some.inj (found.symm.trans found')
        exact fine
      · exact fun released => released ref entry rfl found

theorem copied_not_stale_iff {copied : BindingEntry ι} (ofGamepad : copied.cls = .gamepad)
    {name : String} (cleared : name ∈ BoundClass.gamepad.cleared) :
    (∀ function, copied.table name = some function → ¬ function.Stale past) ↔
      copied.released = true ∨ copied.Fresh past := by
  have installed : name ∈ copied.cls.installed := by
    rw [ofGamepad]
    exact List.mem_append_left ["pov"] cleared
  rw [copied.not_stale_iff, ofGamepad]
  rw [ofGamepad] at installed
  simp [installed, cleared]

/-- Of all that is installed, only `pov` is not cleared. -/
theorem cleared_of_installed {cls : BoundClass} {name : String} (installed : name ∈ cls.installed)
    (other : cls = .gamepad → name ≠ "pov") : name ∈ cls.cleared := by
  cases cls <;> simp [BoundClass.installed, BoundClass.cleared] at installed other ⊢ <;> tauto

/-- A current table is cleared while its class is unbound, and of a bound
instance while it is not. -/
theorem IsCurrent.fresh_iff {entry : BindingEntry ι} (current : IsCurrent past entry) :
    entry.Fresh past ↔ boundSince past entry.cls ≠ some [] := by
  constructor
  · intro fresh unbound
    exact absurd (fresh [] unbound) List.not_mem_nil
  · intro bound instances since
    apply current.bound instances since
    rintro rfl
    exact bound since

theorem cxx_not_stale_iff (wellFormed : WellFormed past ledger) (cls : BoundClass)
    (name : String) :
    (∀ function, ledger.toLua.call (.cxx cls name) = some function → ¬ function.Stale past) ↔
      ledger.Permits past (.cxx cls name) := by
  have called : ledger.toLua.call (.cxx cls name) =
      ledger.cxx.bind fun cxx => ledger.toLua.field (cxx cls) name := rfl
  rw [called, Permits]
  cases equal : ledger.cxx with
  | none => simp
  | some cxx =>
      rw [Option.bind_some]
      cases refers : cxx cls with
      | none =>
          apply iff_of_true (by simp [field_toLua])
          rintro rfl - - _ ⟨⟩
          exact refers
      | some ref =>
          obtain ⟨entry, found, rfl, current⟩ := wellFormed.cxx cxx equal cls ref refers
          rw [field_toLua, Option.bind_some, found, Option.bind_some, entry.not_stale_iff,
            current.fresh_iff]
          by_cases pov : entry.cls = .gamepad ∧ name = "pov"
          · obtain ⟨ofGamepad, rfl⟩ := pov
            rw [ofGamepad] at refers ⊢
            simp [BoundClass.installed, BoundClass.cleared, refers]
          · refine iff_of_true (fun installed => ?_)
              (fun ofGamepad isPov => absurd ⟨ofGamepad, isPov⟩ pov)
            have cleared := cleared_of_installed installed fun ofGamepad isPov =>
              pov ⟨ofGamepad, isPov⟩
            by_cases unbound : boundSince past entry.cls = some []
            · exact .inl ⟨current.released unbound, cleared⟩
            · exact .inr unbound

theorem callGamepad_copied (lua : LuaBindings ι) (impl : Nat) (copied : BindingEntry ι)
    {function : GamepadFunction} (notPov : function ≠ .pov) :
    ∃ name ∈ BoundClass.gamepad.cleared,
      lua.callGamepad
          ⟨impl, copied.table "raw_axis", copied.table "raw_button",
            copied.table "raw_button_pressed", copied.table "raw_button_released"⟩ function =
        copied.table name := by
  cases function with
  | pov => exact absurd rfl notPov
  | axis | leftTrigger | rightTrigger => exact ⟨"raw_axis", by decide, rfl⟩
  | leftBumperPressed | rightBumperPressed => exact ⟨"raw_button_pressed", by decide, rfl⟩
  | leftBumperReleased | rightBumperReleased => exact ⟨"raw_button_released", by decide, rfl⟩
  | _ => exact ⟨"raw_button", by decide, rfl⟩

theorem permits_gamepad_of_ne_pov {function : GamepadFunction} (notPov : function ≠ .pov) :
    ledger.Permits past (.gamepad function) ↔
      ∀ impl copied, ledger.gamepad = some (impl, copied) →
        copied.released = true ∨ copied.Fresh past := by
  cases function with
  | pov => exact absurd rfl notPov
  | _ => rfl

theorem gamepad_not_stale_iff (wellFormed : WellFormed past ledger)
    (function : GamepadFunction) :
    (∀ bound, ledger.toLua.call (.gamepad function) = some bound → ¬ bound.Stale past) ↔
      ledger.Permits past (.gamepad function) := by
  cases loaded : ledger.gamepad with
  | none => cases function <;> simp [LuaBindings.call, toLua, Permits, loaded]
  | some held =>
      obtain ⟨impl, copied⟩ := held
      obtain ⟨ofGamepad, entry, found, entryCls, entrySelf⟩ :=
        wellFormed.gamepad impl copied loaded
      have called : ledger.toLua.call (.gamepad function) =
          ledger.toLua.callGamepad
            ⟨impl, copied.table "raw_axis", copied.table "raw_button",
              copied.table "raw_button_pressed", copied.table "raw_button_released"⟩ function := by
        simp [LuaBindings.call, toLua, loaded]
      rw [called]
      by_cases isPov : function = .pov
      · subst isPov
        have looked : ledger.toLua.field (some impl) "pov" = entry.table "pov" := by
          rw [field_toLua, Option.bind_some, found, Option.bind_some]
        have fresh : entry.Fresh past ↔ copied.Fresh past := by
          rw [BindingEntry.Fresh, BindingEntry.Fresh, entryCls, entrySelf, ofGamepad]
        rw [LuaBindings.callGamepad, looked, entry.not_stale_iff, entryCls, fresh]
        simp [BoundClass.installed, BoundClass.cleared, Permits, loaded]
      · obtain ⟨name, cleared, copy⟩ := callGamepad_copied ledger.toLua impl copied isPov
        rw [copy, copied_not_stale_iff ofGamepad cleared, permits_gamepad_of_ne_pov isPov]
        simp [loaded]

theorem params_not_stale_iff (wellFormed : WellFormed past ledger) (function : ParamsFunction) :
    (∀ bound, ledger.toLua.call (.params function) = some bound → ¬ bound.Stale past) ↔
      ledger.Permits past (.params function) := by
  have called : ledger.toLua.call (.params function) =
      ledger.params.bind fun M => ledger.toLua.callParams M function := rfl
  rw [called]
  cases loaded : ledger.params with
  | none => simp [Permits, loaded]
  | some M =>
      have holds := wellFormed.params M loaded
      have permits : ledger.Permits past (.params function) ↔ ledger.Released past M.impl := by
        simp [Permits, loaded]
      rw [permits, Option.bind_some]
      cases function <;> exact field_not_stale_iff holds (by decide) (by decide)

theorem robot_not_stale_iff (wellFormed : WellFormed past ledger) (function : RobotFunction) :
    (∀ bound, ledger.toLua.call (.robot function) = some bound → ¬ bound.Stale past) ↔
      ledger.Permits past (.robot function) := by
  have called : ledger.toLua.call (.robot function) =
      ledger.robot.bind fun M => ledger.toLua.callRobot M function := rfl
  rw [called]
  cases loaded : ledger.robot with
  | none => simp [Permits, loaded]
  | some M =>
      obtain ⟨drivetrain, lifter, shooter⟩ := wellFormed.robot M loaded
      have permits : ledger.Permits past (.robot function) ↔
          ledger.Released past (robotTable M function) := by
        simp [Permits, loaded]
      rw [permits, Option.bind_some]
      cases function with
      | drive => exact field_not_stale_iff drivetrain (by decide) (by decide)
      | raiseArms | lowerArms | stopLifter =>
          exact field_not_stale_iff lifter (by decide) (by decide)
      | _ => exact field_not_stale_iff shooter (by decide) (by decide)

theorem call_not_stale_iff (wellFormed : WellFormed past ledger) (call : LuaCall) :
    (∀ function, ledger.toLua.call call = some function → ¬ function.Stale past) ↔
      ledger.Permits past call := by
  cases call with
  | cxx cls name => exact cxx_not_stale_iff wellFormed cls name
  | gamepad function => exact gamepad_not_stale_iff wellFormed function
  | params function => exact params_not_stale_iff wellFormed function
  | robot function => exact robot_not_stale_iff wellFormed function

end Calls

end BindingLedger

namespace LuaBindings

/-- **Unbinding releases the instance.** In every sequence of binding,
unbinding, loading modules and calling functions, no call executes a function of
an instance that has not been bound since the last unbinding of its class, if
and only if every call is permitted. -/
theorem unbinding_releases_iff {ι : Type*} (actions : List (LuaAction ι)) :
    (∀ past call rest, actions = past ++ .call call :: rest →
        ∀ function, (past.foldl act .fresh).call call = some function → ¬ function.Stale past) ↔
      ∀ past call rest, actions = past ++ .call call :: rest →
        (BindingLedger.after past).Permits past call := by
  refine forall₄_congr fun past call rest _ => ?_
  obtain ⟨wellFormed, describes⟩ := BindingLedger.describes_after past
  rw [← describes]
  exact BindingLedger.call_not_stale_iff wellFormed call

/-- The gamepad is bound and unbound, and then `cxx.gamepad.pov` is called. -/
theorem pov_survives_unbinding :
    ¬ ∀ (actions : List (LuaAction Nat)) (past : List (LuaAction Nat)) (call : LuaCall)
        (rest : List (LuaAction Nat)), actions = past ++ .call call :: rest →
          ∀ function, (past.foldl act .fresh).call call = some function →
            ¬ function.Stale past := by
  intro released
  exact released _ [.bind .gamepad (some 0), .bind .gamepad none] (.cxx .gamepad "pov") [] rfl
    (.bound .gamepad 0 "pov") (by decide +kernel) ⟨[], rfl, List.not_mem_nil⟩

end LuaBindings

end RobotFirmware
