import RobotFirmware.PackagePath

/-!
# The Lua interpreter of the process

`scripting.cpp` keeps one `sol::state` behind a static pointer, and beside it
three static variables about its set-up.  All four belong to the process: they
outlive the `Lifecycle` objects that create and destroy the states.
-/

namespace RobotFirmware

/-- What the functions of `scripting.cpp` read and write in a `sol::state`.
A module is identified by the file it was loaded from. -/
structure LuaState where
  /-- The number of states that were created before. -/
  id : Nat
  /-- `package.path`. -/
  packagePath : String
  /-- `package.loaded.config`. -/
  loaded : Option String
  /-- The global `config`. -/
  config : Option String
  deriving DecidableEq, Repr

/-- The file system, the directories of WPILib and the `package.path` of a new
interpreter. -/
structure LuaHost where
  fileExists : String → Bool
  deployDirectory : String
  operatingDirectory : String
  launchDirectory : String
  packagePath : String

/-- The directory has a `config.lua` in it. -/
def LuaHost.holdsConfig (host : LuaHost) (directory : String) : Bool :=
  host.fileExists (directory ++ "/config.lua")

/-- A host for the bench, with a `config.lua` in two directories. -/
def LuaHost.bench : LuaHost where
  fileExists file := file == "/deploy/config.lua" || file == "/other/config.lua"
  deployDirectory := "/deploy"
  operatingDirectory := "/home"
  launchDirectory := "/launch"
  packagePath := "./?.lua"

/-- The static variables of `lua::detail`. -/
structure Scripting where
  state : Option LuaState
  boostraped : Bool
  path : String
  searchDir : String
  /-- The number of states created so far. -/
  created : Nat
  deriving DecidableEq, Repr

namespace Scripting

/-- The variables when the process starts. -/
def start : Scripting :=
  ⟨none, false, "", "", 0⟩

def init (host : LuaHost) (scripting : Scripting) : Scripting :=
  match scripting.state with
  | some _ => scripting
  | none =>
      { scripting with
        state := some ⟨scripting.created, host.packagePath, none, none⟩
        created := scripting.created + 1 }

def destroy (scripting : Scripting) : Scripting :=
  { scripting with state := none }

def hasCustomPath (scripting : Scripting) : Bool :=
  !scripting.path.isEmpty

def withSearchQualifiers (input : String) : String :=
  input ++ "/" ++ "?.lua;" ++ "/" ++ "?" ++ "/" ++ "init.lua"

/-- `Lifecycle::Lifecycle`, with the text of its exception. -/
def construct (host : LuaHost) (scripting : Scripting) : Except String Unit × Scripting :=
  match scripting.state with
  | some _ => (.error "lua::Lifecycle already exists.", scripting.destroy)
  | none => (.ok (), scripting.init host)

/-- `lua::state`. -/
def luaState (scripting : Scripting) : Except String LuaState :=
  match scripting.state with
  | some state => .ok state
  | none => .error "Lua state was not initialized"

def setPath (path : String) (scripting : Scripting) : Except String Unit × Scripting :=
  if path.isEmpty then
    (.ok (), scripting)
  else
    match scripting.luaState with
    | .error message => (.error message, scripting)
    | .ok state =>
        let searchPath := withSearchQualifiers path
        (.ok (),
          { scripting with
            searchDir := path
            path := searchPath
            state := some { state with packagePath := searchPath } })

/-- The directory that `bootstrap` chooses when no path was set. -/
def bootstrapDirectory (host : LuaHost) : String :=
  let path := host.deployDirectory
  let path := if !host.holdsConfig path then host.operatingDirectory ++ "/robot" else path
  let path := if !host.holdsConfig path then host.launchDirectory ++ "/robot" else path
  if !host.holdsConfig path then "" else path

/-- `config = require ('config')`: a module is loaded once. -/
def requireConfig (host : LuaHost) (state : LuaState) : Option LuaState :=
  match state.loaded with
  | some file => some { state with config := some file }
  | none =>
      (PackagePath.search host.fileExists state.packagePath "config").map fun file =>
        { state with loaded := some file, config := some file }

def bootstrap (host : LuaHost) (scripting : Scripting) : Except String Bool × Scripting :=
  if scripting.boostraped then
    (.ok true, scripting)
  else
    let (pathSet, scripting) :=
      if !scripting.hasCustomPath then
        scripting.setPath (bootstrapDirectory host)
      else
        (.ok (), scripting)
    match pathSet, scripting.luaState with
    | .error message, _ => (.error message, scripting)
    | _, .error message => (.error message, scripting)
    | .ok (), .ok state =>
        match requireConfig host state with
        | none => (.ok false, scripting)
        | some state => (.ok true, { scripting with state := some state, boostraped := true })

end Scripting

end RobotFirmware
