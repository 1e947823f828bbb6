import Mathlib.Algebra.Order.Group.Abs
import Mathlib.Algebra.Order.Field.Basic
import Mathlib.Data.Rat.Floor

/-!
# Controller values

`parameters.cpp` keeps a filtered snapshot of the gamepad.  Its arrays have
fixed sizes, while the device reports how many axes and buttons it has;
`RobotMain::processParameters` copies the smaller number of each.  Array
accesses are checked, and an access outside an array yields no result.
-/

namespace RobotFirmware

/-- What the driver station reports about the gamepad during one tick.
Buttons are numbered from one. -/
structure GamepadReading (K : Type*) where
  connected : Bool
  axisCount : Nat
  rawAxis : Nat → K
  povCount : Nat
  pov : Int
  buttonCount : Nat
  rawButton : Nat → Bool
  rawButtonPressed : Nat → Bool
  rawButtonReleased : Nat → Bool

namespace Parameters

def maxAxes : Nat := 32

def maxPOVs : Nat := 1

def maxButtons : Nat := 16

def leftStickX : Nat := 0

def leftStickY : Nat := 1

def triggerLeft : Nat := 2

def rightStickX : Nat := 4

def rightStickY : Nat := 5

def buttonA : Nat := 0

def buttonB : Nat := 1

def buttonX : Nat := 2

def buttonY : Nat := 3

def buttonLeftBumper : Nat := 4

def buttonRightBumper : Nat := 5

/-- `snider::PadMode`. -/
inductive PadMode
  | standard
  deriving DecidableEq, Repr

/-- `Parameters::Context`. -/
structure Context (K : Type*) where
  axis : Vector K maxAxes
  povs : Vector Int maxPOVs
  buttons : Vector Bool maxButtons
  deriving DecidableEq, Repr

/-- A new context is zero everywhere. -/
def Context.zero {K : Type*} [Zero K] : Context K where
  axis := .replicate maxAxes 0
  povs := .replicate maxPOVs 0
  buttons := .replicate maxButtons false

/-- A checked array write. -/
def write {α : Type*} {size : Nat} (array : Vector α size) (index : Nat) (value : α) :
    Option (Vector α size) :=
  if inside : index < size then some (array.set index value inside) else none

/-- `for (int i = count; --i >= 0;) array[i] = value (i);` -/
def copyDown {α : Type*} {size : Nat} (value : Nat → α) :
    Nat → Vector α size → Option (Vector α size)
  | 0, array => some array
  | index + 1, array => (write array index (value index)).bind (copyDown value index)

theorem copyDown_isSome {α : Type*} {size : Nat} (value : Nat → α) (count : Nat)
    (array : Vector α size) (fits : count ≤ size) :
    (copyDown value count array).isSome := by
  induction count generalizing array with
  | zero => rfl
  | succ index ih =>
      have inside : index < size := fits
      simp only [copyDown, write, dif_pos inside, Option.bind_some]
      exact ih _ (by omega)

/-- The context that `RobotMain::processParameters` builds from a reading. -/
def readContext {K : Type*} [Zero K] (pad : GamepadReading K) : Option (Context K) :=
  let context : Context K := .zero
  (copyDown pad.rawAxis (min pad.axisCount maxAxes) context.axis).bind fun axis =>
    (write context.povs 0 (if pad.povCount ≤ 0 then 0 else pad.pov)).bind fun povs =>
      (copyDown (fun index => pad.rawButton (index + 1)) (min pad.buttonCount maxButtons)
        context.buttons).map fun buttons => ⟨axis, povs, buttons⟩

theorem readContext_isSome {K : Type*} [Zero K] (pad : GamepadReading K) :
    (readContext pad).isSome := by
  obtain ⟨axis, axisRead⟩ := Option.isSome_iff_exists.mp
    (copyDown_isSome pad.rawAxis (min pad.axisCount maxAxes)
      (Context.zero (K := K)).axis (min_le_right _ _))
  obtain ⟨buttons, buttonsRead⟩ := Option.isSome_iff_exists.mp
    (copyDown_isSome (fun index => pad.rawButton (index + 1))
      (min pad.buttonCount maxButtons) (Context.zero (K := K)).buttons (min_le_right _ _))
  simp [readContext, axisRead, buttonsRead, write, maxPOVs]

end Parameters

/-- The members of `Parameters`. -/
structure Parameters (K : Type*) where
  values : Parameters.Context K
  lastValues : Parameters.Context K
  padMode : Parameters.PadMode

namespace Parameters

variable {K : Type*}

def create [Zero K] : Parameters K :=
  ⟨.zero, .zero, .standard⟩

def getAxisValue (params : Parameters K) (index : Fin maxAxes) : K :=
  params.values.axis[index]

def getButtonValue (params : Parameters K) (button : Fin maxButtons) : Bool :=
  params.values.buttons[button]

def getLeftStickY (params : Parameters K) : K :=
  params.getAxisValue ⟨leftStickY, by decide⟩

def getRightStickX (params : Parameters K) : K :=
  params.getAxisValue ⟨rightStickX, by decide⟩

def getTriggerLeft (params : Parameters K) : K :=
  params.getAxisValue ⟨triggerLeft, by decide⟩

def getSpeed (params : Parameters K) : K :=
  match params.padMode with
  | .standard => params.getLeftStickY

def getAngularSpeed (params : Parameters K) : K :=
  match params.padMode with
  | .standard => params.getRightStickX

def getBrake (params : Parameters K) : K :=
  match params.padMode with
  | .standard => params.getTriggerLeft

variable [Field K] [LinearOrder K]

def deadZone : K := 0.1

/-- The axes that have a dead zone. -/
def sticks : List (Fin maxAxes) :=
  [⟨leftStickX, by decide⟩, ⟨leftStickY, by decide⟩, ⟨rightStickX, by decide⟩,
    ⟨rightStickY, by decide⟩]

/-- The dead zone of one axis. -/
def filterAxis (axis : Vector K maxAxes) (index : Fin maxAxes) : Vector K maxAxes :=
  if |axis[index]| ≤ deadZone then axis.set index 0 else axis

def process (context : Context K) (params : Parameters K) : Parameters K :=
  let values := { context with axis := sticks.foldl filterAxis context.axis }
  { params with values := values, lastValues := values }

end Parameters

end RobotFirmware
