import Mathlib.Order.Fin.Basic
import RobotFirmware.LuaTick

/-!
# The parameters of a tick

`processParameters` copies the raw values of the gamepad into a new context and
filters the axes of the two sticks.  The lemmas below say what every axis
and every button of the snapshot holds afterwards, whatever the device reported
before.
-/

namespace RobotFirmware

namespace Parameters

theorem getElem_eq_get {α : Type*} {size : Nat} (array : Vector α size) (index : Fin size) :
    array[index] = array.get index :=
  rfl

/-- The loop leaves the values below its count, and the array above. -/
theorem getElem_copyDown {α : Type*} {size : Nat} (value : Nat → α) {count : Nat}
    {array result : Vector α size} (copied : copyDown value count array = some result)
    (index : Nat) (inside : index < size) :
    result[index] = if index < count then value index else array[index] := by
  induction count generalizing array with
  | zero =>
      cases copied
      simp
  | succ last ih =>
      have fits : last < size := by
        by_contra outside
        simp [copyDown, write, outside] at copied
      simp only [copyDown, write, dif_pos fits, Option.bind_some] at copied
      rw [ih copied, Vector.getElem_set]
      by_cases here : last = index
      · subst here
        simp
      · simp only [here, ↓reduceIte, Nat.lt_succ_iff_lt_or_eq, Ne.symm here, or_false]

/-- A count that does not fit is cut, so that every index below it is copied. -/
theorem get_copyDown_min {α : Type*} {size : Nat} (value : Nat → α) {count : Nat}
    {array result : Vector α size} (copied : copyDown value (min count size) array = some result)
    (index : Fin size) :
    result.get index = if (index : Nat) < count then value index else array.get index := by
  have reported : (index : Nat) < min count size ↔ (index : Nat) < count := by simp
  have loop := getElem_copyDown value copied index index.isLt
  simp only [reported] at loop
  exact loop

variable {K : Type*}

/-- The axes that the device reports hold their raw values, and the others
zero. -/
theorem axis_readContext [Zero K] {pad : GamepadReading K} {context : Context K}
    (read : readContext pad = some context) (index : Fin maxAxes) :
    context.axis.get index = if (index : Nat) < pad.axisCount then pad.rawAxis index else 0 := by
  simp only [readContext, Option.bind_eq_some_iff, Option.map_eq_some_iff] at read
  obtain ⟨axis, axisCopied, povs, -, buttons, -, rfl⟩ := read
  have unread : (Context.zero (K := K)).axis.get index = 0 := Vector.getElem_replicate index.isLt
  rw [get_copyDown_min pad.rawAxis axisCopied, unread]

/-- The buttons that the device reports are copied, the first from number one,
and the others are released. -/
theorem button_readContext [Zero K] {pad : GamepadReading K} {context : Context K}
    (read : readContext pad = some context) (button : Fin maxButtons) :
    context.buttons.get button =
      if (button : Nat) < pad.buttonCount then pad.rawButton (button + 1) else false := by
  simp only [readContext, Option.bind_eq_some_iff, Option.map_eq_some_iff] at read
  obtain ⟨axis, -, povs, -, buttons, buttonsCopied, rfl⟩ := read
  have unread : (Context.zero (K := K)).buttons.get button = false :=
    Vector.getElem_replicate button.isLt
  rw [get_copyDown_min (fun index => pad.rawButton (index + 1)) buttonsCopied, unread]

variable [Field K] [LinearOrder K]

theorem get_filterAxis (axis : Vector K maxAxes) (filtered index : Fin maxAxes) :
    (filterAxis axis filtered).get index =
      if filtered = index ∧ |axis.get index| ≤ deadZone then 0 else axis.get index := by
  by_cases here : filtered = index ∧ |axis.get index| ≤ deadZone
  · obtain ⟨rfl, small⟩ := here
    rw [if_pos ⟨rfl, small⟩, filterAxis, getElem_eq_get, if_pos small]
    exact Vector.getElem_set_self filtered.isLt
  · rw [if_neg here]
    unfold filterAxis
    split
    next small =>
      have other : (filtered : Nat) ≠ index := fun same => by
        obtain rfl := Fin.ext same
        exact here ⟨rfl, small⟩
      exact Vector.getElem_set_ne filtered.isLt index.isLt other
    next => rfl

theorem get_foldl_filterAxis (indices : List (Fin maxAxes)) (axis : Vector K maxAxes)
    (index : Fin maxAxes) :
    (indices.foldl filterAxis axis).get index =
      if index ∈ indices ∧ |axis.get index| ≤ deadZone then 0 else axis.get index := by
  induction indices generalizing axis with
  | nil => rw [if_neg (by simp), List.foldl_nil]
  | cons first rest ih =>
      rw [List.foldl_cons, ih, get_filterAxis]
      by_cases small : |axis.get index| ≤ deadZone
      · by_cases here : first = index
        · subst here
          simp only [small, and_self, ↓reduceIte, ite_self, List.mem_cons, true_or]
        · simp only [here, small, ↓reduceIte, and_true, List.mem_cons, Ne.symm here, false_or]
      · simp only [small, and_false, ↓reduceIte]

/-- The dead zones leave nothing that a second pass would change. -/
theorem foldl_filterAxis_idempotent (indices : List (Fin maxAxes)) (axis : Vector K maxAxes) :
    indices.foldl filterAxis (indices.foldl filterAxis axis) = indices.foldl filterAxis axis := by
  ext index inside
  change (indices.foldl filterAxis (indices.foldl filterAxis axis)).get ⟨index, inside⟩ =
    (indices.foldl filterAxis axis).get ⟨index, inside⟩
  rw [get_foldl_filterAxis indices (indices.foldl filterAxis axis)]
  by_cases cut : ⟨index, inside⟩ ∈ indices ∧ |axis.get ⟨index, inside⟩| ≤ deadZone
  · rw [get_foldl_filterAxis, if_pos cut, ite_self]
  · rw [get_foldl_filterAxis, if_neg cut, if_neg cut]

theorem process_values_process (context : Context K) (params : Parameters K) :
    (params.process context).process (params.process context).values =
      params.process context := by
  simp only [process, foldl_filterAxis_idempotent]

/-- What an axis of the snapshot holds: nothing that the device does not
report, and nothing of a stick within its dead zone. -/
def filtered (pad : GamepadReading K) (index : Fin maxAxes) : K :=
  let raw := if (index : Nat) < pad.axisCount then pad.rawAxis index else 0
  if index ∈ sticks ∧ |raw| ≤ deadZone then 0 else raw

theorem getAxisValue_process {pad : GamepadReading K} {context : Context K}
    (read : readContext pad = some context) (params : Parameters K) (index : Fin maxAxes) :
    (params.process context).getAxisValue index = filtered pad index := by
  simp only [getAxisValue, process, getElem_eq_get, get_foldl_filterAxis, axis_readContext read,
    filtered]

theorem getButtonValue_process {pad : GamepadReading K} {context : Context K}
    (read : readContext pad = some context) (params : Parameters K) (button : Fin maxButtons) :
    (params.process context).getButtonValue button =
      if (button : Nat) < pad.buttonCount then pad.rawButton (button + 1) else false :=
  button_readContext read button

section Filtered

variable {pad : GamepadReading K} {index : Fin maxAxes}

theorem filtered_eq_zero (stick : index ∈ sticks) (small : |pad.rawAxis index| ≤ deadZone) :
    filtered pad index = 0 := by
  simp only [filtered, stick, true_and]
  by_cases reported : (index : Nat) < pad.axisCount
  · rw [if_pos reported, if_pos small]
  · rw [if_neg reported, ite_self]

theorem abs_filtered_le [IsStrictOrderedRing K] (within : |pad.rawAxis index| ≤ 1) :
    |filtered pad index| ≤ 1 := by
  have rawLe : |if (index : Nat) < pad.axisCount then pad.rawAxis index else 0| ≤ 1 := by
    split
    · exact within
    · simp
  simp only [filtered]
  generalize (if (index : Nat) < pad.axisCount then pad.rawAxis index else 0) = raw at rawLe ⊢
  split
  · simp
  · exact rawLe

end Filtered

/-- The values are those of one reading: an axis that the device does not report
is zero, a stick within its dead zone is zero, and everything else is raw. -/
structure SnapshotOf (pad : GamepadReading K) (params : Parameters K) : Prop where
  axis : ∀ index : Fin maxAxes,
    params.getAxisValue index =
      if pad.axisCount ≤ index then 0
      else if index ∈ sticks ∧ |pad.rawAxis index| ≤ deadZone then 0
      else pad.rawAxis index
  button : ∀ button : Fin maxButtons,
    params.getButtonValue button =
      if (button : Nat) < pad.buttonCount then pad.rawButton (button + 1) else false

theorem snapshotOf_process {pad : GamepadReading K} {context : Context K}
    (read : readContext pad = some context) (params : Parameters K) :
    SnapshotOf pad (params.process context) where
  axis index := by
    rw [getAxisValue_process read, filtered]
    by_cases reported : (index : Nat) < pad.axisCount
    · rw [if_pos reported, if_neg (Nat.not_le.mpr reported)]
    · rw [if_neg reported, if_pos (Nat.not_lt.mp reported), ite_self]
  button := getButtonValue_process read params

end Parameters

namespace RobotMain

variable {K τ : Type*} [Field K] [LinearOrder K]

theorem getAxisValue_processedParams (robot : RobotMain K τ) (pad : GamepadReading K)
    (index : Fin Parameters.maxAxes) :
    (robot.processedParams pad).getAxisValue index = Parameters.filtered pad index :=
  Parameters.getAxisValue_process (Option.some_get _).symm robot.params index

/-- Whatever happened in earlier ticks, and however many axes and buttons the
device reports, the snapshot is taken without leaving an array, it is the one of
the current reading, a robot with any other past takes the same one, and the
values are not changed by another pass. -/
theorem processParameters_snapshot (robot : RobotMain K τ) (pad : GamepadReading K)
    (connected : robot.gamepadConnected = true) :
    ∃ next, robot.processParameters pad = .ok next ∧
      Parameters.SnapshotOf pad next.params ∧
      (∀ other : RobotMain K τ, other.gamepadConnected = true →
        ∃ otherNext, other.processParameters pad = .ok otherNext ∧
          otherNext.params.values = next.params.values ∧
          otherNext.params.lastValues = next.params.lastValues) ∧
      next.params.process next.params.values = next.params := by
  refine ⟨_, processParameters_of_connected pad connected, ?snapshot, ?fresh, ?stable⟩
  case snapshot => exact Parameters.snapshotOf_process (Option.some_get _).symm robot.params
  case fresh =>
    intro other otherConnected
    exact ⟨_, processParameters_of_connected pad otherConnected, rfl, rfl⟩
  case stable => exact Parameters.process_values_process _ robot.params

/-- On a gamepad with more axes than the snapshot holds, the last axis is the
last that is copied. -/
theorem processParameters_snapshot_of_forty_axes :
    let robot : RobotMain ℚ Unit :=
      { create .bench .bench 0 (.bench (.boolean true)) with gamepadConnected := true }
    let pad : GamepadReading ℚ :=
      ⟨true, 40, fun index => index, 0, 0, 3, fun _ => true, fun _ => false, fun _ => false⟩
    ∃ next, robot.processParameters pad = .ok next ∧
      next.params.getAxisValue ⟨31, by decide⟩ = 31 ∧
      next.params.getButtonValue ⟨2, by decide⟩ = true ∧
      next.params.getButtonValue ⟨3, by decide⟩ = false := by
  intro robot pad
  obtain ⟨next, processed, snapshot, -, -⟩ := processParameters_snapshot robot pad rfl
  have notStick : (⟨31, by decide⟩ : Fin Parameters.maxAxes) ∉ Parameters.sticks := by decide
  refine ⟨next, processed, ?axis, snapshot.button _, snapshot.button _⟩
  case axis =>
    rw [snapshot.axis]
    simp [notStick, pad]

end RobotMain

end RobotFirmware
