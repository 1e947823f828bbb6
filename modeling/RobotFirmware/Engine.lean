import RobotFirmware.Bindings

/-!
# The Lua engine

`engine.hpp` loads a bot file and runs the functions of the descriptor table
that the file returns.  What Lua does while it runs is an input here: the
binding calls it makes, and whether it raises an error.  sol reports a raised
error as an invalid result with a non-empty message.
-/

namespace RobotFirmware

/-- The functions of an engine descriptor. -/
inductive Callback
  | init
  | prepare
  | run
  | cleanup
  deriving DecidableEq, Repr

/-- The methods of `Engine` that run a function of the descriptor. -/
inductive EngineMethod
  | init
  | prepare
  | run
  | safeRun
  | cleanup
  deriving DecidableEq, Repr

/-- `run` and `safe_run` both run the descriptor's `run`. -/
def EngineMethod.callback : EngineMethod → Callback
  | .init => .init
  | .prepare => .prepare
  | .run => .run
  | .safeRun => .run
  | .cleanup => .cleanup

/-- The message of an error reported by sol. -/
abbrev LuaError : Type :=
  { message : String // message ≠ "" }

/-- What happens while Lua runs one callback. -/
structure LuaOutcome (K : Type*) where
  calls : List (BindingCall K)
  error : Option LuaError

/-- What happens while a bot file is loaded and its factory is called.  A
factory that raises an error or returns no table yields no descriptor. -/
inductive LoadOutcome (K : Type*)
  | missing
  | invalid (error : LuaError)
  | notFunction
  | factory (calls : List (BindingCall K)) (defines : Option (Callback → Bool))
  | threw (calls : List (BindingCall K)) (error : LuaError)

/-- The binding calls made by the bot file itself. -/
def LoadOutcome.calls {K : Type*} : LoadOutcome K → List (BindingCall K)
  | .factory calls _ => calls
  | .threw calls _ => calls
  | _ => []

/-- The members of `Engine`.  `identity` tells instances apart, and `defines`
says which functions the descriptor has. -/
structure Engine where
  identity : Nat
  error : String
  defines : Callback → Bool

namespace Engine

variable {K : Type*}

def haveError (engine : Engine) : Bool :=
  !engine.error.isEmpty

def instantiate (identity : Nat) (botFile : String) : LoadOutcome K → Engine
  | .missing => ⟨identity, "file does not exist: " ++ botFile, fun _ => false⟩
  | .invalid error => ⟨identity, error.val, fun _ => false⟩
  | .notFunction => ⟨identity, "Did not get a factory function", fun _ => false⟩
  | .factory _ none =>
      ⟨identity, "Did not get an engine descriptor table", fun _ => false⟩
  | .factory _ (some defines) => ⟨identity, "", defines⟩
  | .threw _ error => ⟨identity, error.val, fun _ => false⟩

@[simp]
theorem identity_instantiate (identity : Nat) (botFile : String) (load : LoadOutcome K) :
    (instantiate identity botFile load).identity = identity := by
  cases load with
  | factory calls defines => cases defines <;> rfl
  | _ => rfl

/-- Whether running a method of the engine raises an error. -/
def fails (engine : Engine) (method : EngineMethod) (outcome : LuaOutcome K) : Bool :=
  engine.defines method.callback && outcome.error.isSome

/-- The methods generated by `PMETHOD`; they return `! have_error()`. -/
def protectedCall (engine : Engine) (method : EngineMethod) (outcome : LuaOutcome K) :
    Engine :=
  let engine := { engine with error := "" }
  if !engine.defines method.callback then
    engine
  else
    match outcome.error with
    | none => engine
    | some error => { engine with error := error.val }

@[simp]
theorem identity_protectedCall (engine : Engine) (method : EngineMethod)
    (outcome : LuaOutcome K) :
    (engine.protectedCall method outcome).identity = engine.identity := by
  unfold protectedCall
  cases outcome.error <;> dsimp only <;> split <;> rfl

@[simp]
theorem defines_protectedCall (engine : Engine) (method : EngineMethod)
    (outcome : LuaOutcome K) :
    (engine.protectedCall method outcome).defines = engine.defines := by
  unfold protectedCall
  cases outcome.error <;> dsimp only <;> split <;> rfl

@[simp]
theorem haveError_protectedCall (engine : Engine) (method : EngineMethod)
    (outcome : LuaOutcome K) :
    (engine.protectedCall method outcome).haveError = engine.fails method outcome := by
  unfold protectedCall fails
  cases defined : engine.defines method.callback with
  | false => simp [haveError, defined]
  | true =>
      cases outcome.error with
      | none => simp [haveError]
      | some error => simp [haveError, defined, error.property]

end Engine

/-- One call of an `Engine` method, for the history of a run: the session it
was made in, the instance it was made on, and how it went. -/
structure EngineCall where
  session : Nat
  identity : Nat
  method : EngineMethod
  /-- The descriptor has the function, so Lua really ran. -/
  invoked : Bool
  failed : Bool
  deriving DecidableEq, Repr

end RobotFirmware
