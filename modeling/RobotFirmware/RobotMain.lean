import RobotFirmware.AutoMode
import RobotFirmware.Engine
import RobotFirmware.Parameters

/-!
# The robot program

`RobotMain` in `main.cpp` reacts to the callbacks of WPILib's `TimedRobot`.
Each callback is a function of the robot and of what the callback reads:
controller, clock, Lua.  Besides the members of the class the state keeps a
history of the engines loaded and of the calls made on them.
-/

namespace RobotFirmware

/-- The result of `RamseteController::Calculate`, as far as it is used. -/
structure ChassisSpeeds (K : Type*) where
  vx : K
  omega : K

/-- What `RobotMain` takes from outside the repository.  `follow` is
`ramsete.Calculate (pose, trajectory.Sample (elapsed))`, and `safeFunctions`
is sol's `SOL_SAFE_FUNCTION_OBJECTS`, which debug builds switch on. -/
structure Platform (K τ π : Type*) where
  isReal : Bool
  safeFunctions : Bool
  expLog : K → K → K
  radiansPerDegree : K
  emptyTrajectory : τ
  fallbackTrajectory : τ
  totalTime : τ → K
  follow : τ → K → π → ChassisSpeeds K

/-- A robot on the bench: one trajectory of one second, driven straight. -/
def Platform.bench : Platform Rat Unit Unit where
  isReal := true
  safeFunctions := false
  expLog := fun x _ => x * x
  radiansPerDegree := 355 / 113 / 180
  emptyTrajectory := ()
  fallbackTrajectory := ()
  totalTime := fun _ => 1
  follow := fun _ _ _ => ⟨1, 0⟩

/-- A mode for the bench, with the given `shoot` entry. -/
def ModeReads.bench (shoot : LuaField) : ModeReads Unit where
  selected := "Middle"
  defaultMatchStart := "Middle"
  table := ⟨shoot, .boolean true⟩
  infoShootThrows := none
  infoReverseThrows := none
  trajectory := .ok ()
  shootThrows := none

/-- Why a callback does not return. -/
inductive Halt
  /-- The null engine pointer is dereferenced. -/
  | nullEngine
  /-- An array is accessed outside its bounds. -/
  | outOfBounds
  /-- An exception leaves the callback. -/
  | uncaught (error : LuaError)
  /-- The framework does not make this callback now. -/
  | notScheduled
  deriving DecidableEq, Repr

/-- A line written by `luaLogErrorIfPresent`. -/
structure LoggedError where
  session : Nat
  identity : Nat
  message : String
  deriving DecidableEq, Repr

/-- The members of `RobotMain`.  The timer is the clock reading of its last
restart.  The last four fields are history: the number of Teleop and Test
sessions begun, those whose bot could not be loaded, the engine calls made and
the errors logged. -/
structure RobotMain (K τ : Type*) extends Actuators K where
  engine : Option Engine
  params : Parameters K
  gamepadConnected : Bool
  autoInfo : AutoModeInfo τ
  timer : K
  hasShot : Bool
  hasStartedMoving : Bool
  luaErrorEncountered : Bool
  protectedLuaCalls : Bool
  sessions : Nat
  failedLoads : List Nat
  engineCalls : List EngineCall
  errorLog : List LoggedError

/-- What a Teleop or Test session reads while it begins. -/
structure SessionStart (K : Type*) where
  botPath : String
  load : LoadOutcome K
  init : LuaOutcome K
  prepare : LuaOutcome K
  config : Config K

/-- What one `AutonomousPeriodic` reads.  `restartAt` is the clock when the
timer is restarted, if it is, and `now` the clock when it is read. -/
structure AutoTick (K π : Type*) where
  restartAt : K
  now : K
  pose : π

namespace RobotMain

variable {K τ π : Type*}

section Mode

/-- A default-constructed `AutoModeInfo`. -/
def defaultInfo (platform : Platform K τ π) : AutoModeInfo τ :=
  ⟨"", true, false, platform.emptyTrajectory⟩

/-- The fallback of `RobotMain::reloadTrajectory`. -/
def loadFallback (platform : Platform K τ π) (robot : RobotMain K τ) : RobotMain K τ :=
  { robot with
    autoInfo :=
      { defaultInfo platform with
        name := "Fallback"
        trajectory := platform.fallbackTrajectory } }

def reloadTrajectory (platform : Platform K τ π) (robot : RobotMain K τ)
    (reads : ModeReads τ) : RobotMain K τ :=
  match reads.info (defaultInfo platform) with
  | .error _ => robot.loadFallback platform
  | .ok info =>
      let robot := { robot with autoInfo := info }
      match reads.shouldShoot with
      | .error _ => robot.loadFallback platform
      | .ok shoot => { robot with hasShot := !shoot, hasStartedMoving := false }

theorem reloadTrajectory_frame (platform : Platform K τ π) (robot : RobotMain K τ)
    (reads : ModeReads τ) :
    ∃ autoInfo hasShot hasStartedMoving, robot.reloadTrajectory platform reads =
      { robot with
        autoInfo := autoInfo
        hasShot := hasShot
        hasStartedMoving := hasStartedMoving } := by
  unfold reloadTrajectory
  split
  · exact ⟨_, _, _, rfl⟩
  · split <;> exact ⟨_, _, _, rfl⟩

def autonomousInit (platform : Platform K τ π) (robot : RobotMain K τ)
    (reads : ModeReads τ) (now : K) : RobotMain K τ :=
  { robot.reloadTrajectory platform reads with timer := now }

end Mode

variable [Field K] [LinearOrder K]

def driveDisabled (robot : RobotMain K τ) : RobotMain K τ :=
  { robot with drivetrain := robot.drivetrain.drive 0 0 }

def checkControllerConnection (robot : RobotMain K τ) (pad : GamepadReading K) :
    RobotMain K τ :=
  { robot with gamepadConnected := pad.connected }

def processParameters (robot : RobotMain K τ) (pad : GamepadReading K) :
    Except Halt (RobotMain K τ) :=
  if !robot.gamepadConnected then
    .ok robot
  else
    match Parameters.readContext pad with
    | none => .error .outOfBounds
    | some context => .ok { robot with params := robot.params.process context }

section Autonomous

/-- The first statements of `RobotMain::AutonomousPeriodic`: shoot once. -/
def autonomousShoot (robot : RobotMain K τ) : RobotMain K τ :=
  let robot :=
    if !robot.hasShot then
      { robot with shooter := robot.shooter.shoot, hasShot := true }
    else
      robot
  { robot with shooter := robot.shooter.process }

/-- Begin motion: the timer counts from here on. -/
def startMoving (robot : RobotMain K τ) (restartAt : K) : RobotMain K τ :=
  if !robot.hasStartedMoving then
    { robot with hasStartedMoving := true, timer := restartAt }
  else
    robot

/-- What is passed to `drive` when a time has elapsed since motion began. -/
def moveSetPoint (platform : Platform K τ π) (info : AutoModeInfo τ) (elapsed : K)
    (pose : π) : SetPoint K :=
  let speeds := platform.follow info.trajectory elapsed pose
  let vx := if info.reverse then speeds.vx * -1 else speeds.vx
  if elapsed ≤ platform.totalTime info.trajectory then
    ⟨vx * 0.5, speeds.omega⟩
  else if elapsed < platform.totalTime info.trajectory + 3.0 then
    ⟨0, 60.0 * 0.3 * platform.radiansPerDegree⟩
  else
    ⟨0, 0⟩

/-- The rest of `RobotMain::AutonomousPeriodic`, while not shooting. -/
def autonomousMove (platform : Platform K τ π) (robot : RobotMain K τ)
    (tick : AutoTick K π) : RobotMain K τ :=
  let robot := robot.startMoving tick.restartAt
  let elapsed := tick.now - robot.timer
  let setPoint := moveSetPoint platform robot.autoInfo elapsed tick.pose
  { robot with drivetrain := robot.drivetrain.drive setPoint.xSpeed setPoint.rot }

def autonomousPeriodic (platform : Platform K τ π) (robot : RobotMain K τ)
    (tick : AutoTick K π) : RobotMain K τ :=
  let robot := robot.autonomousShoot
  if robot.shooter.isShooting then
    robot.driveDisabled
  else
    robot.autonomousMove platform tick

end Autonomous

variable [FloorRing K]

section Lua

/-- A method of `engine` runs its Lua function, if the descriptor has it. -/
def invoke (robot : RobotMain K τ) (engine : Engine) (method : EngineMethod)
    (outcome : LuaOutcome K) : RobotMain K τ :=
  let invoked := engine.defines method.callback
  { robot with
    toActuators :=
      if invoked then robot.toActuators.performAll outcome.calls else robot.toActuators
    engineCalls :=
      robot.engineCalls ++
        [⟨robot.sessions, engine.identity, method, invoked, engine.fails method outcome⟩] }

/-- `RobotMain::loadEngine`, with the exception that it throws, if any.  The
result of `newEngine->init()` is not looked at. -/
def loadEngine (robot : RobotMain K τ) (start : SessionStart K) :
    RobotMain K τ × Option String :=
  let session := robot.sessions + 1
  let newEngine := Engine.instantiate session start.botPath start.load
  let robot :=
    { robot with
      toActuators := robot.toActuators.performAll start.load.calls
      sessions := session
      failedLoads :=
        if newEngine.haveError then robot.failedLoads ++ [session] else robot.failedLoads }
  if newEngine.haveError then
    (robot, some newEngine.error)
  else
    let robot := robot.invoke newEngine .init start.init
    ({ robot with engine := some (newEngine.protectedCall .init start.init) }, none)

/-- `RobotMain::safeLoadEngine`; it returns `! luaErrorEncountered`. -/
def safeLoadEngine (robot : RobotMain K τ) (start : SessionStart K) : RobotMain K τ :=
  match { robot with luaErrorEncountered := false }.loadEngine start with
  | (robot, none) => robot
  | (robot, some _) => { robot with luaErrorEncountered := true }

def luaLogErrorIfPresent (robot : RobotMain K τ) : Except Halt (RobotMain K τ) :=
  if !robot.luaErrorEncountered then
    .ok robot
  else
    match robot.engine with
    | none => .error .nullEngine
    | some engine =>
        let message := if engine.haveError then engine.error else "unknown Lua error"
        .ok { robot with
          errorLog := robot.errorLog ++ [⟨robot.sessions, engine.identity, message⟩] }

/-- `luaErrorEncountered = ! engine->method(); luaLogErrorIfPresent();` -/
def checkedCall (robot : RobotMain K τ) (method : EngineMethod) (outcome : LuaOutcome K) :
    Except Halt (RobotMain K τ) :=
  match robot.engine with
  | none => .error .nullEngine
  | some engine =>
      let called := engine.protectedCall method outcome
      luaLogErrorIfPresent
        { robot.invoke engine method outcome with
          engine := some called
          luaErrorEncountered := called.haveError }

/-- `engine->run();`, which does not catch errors.  With safe function objects
sol returns an error as a result, and the result is dropped. -/
def runEngine (platform : Platform K τ π) (robot : RobotMain K τ) (outcome : LuaOutcome K) :
    Except Halt (RobotMain K τ) :=
  match robot.engine with
  | none => .error .nullEngine
  | some engine =>
      match outcome.error with
      | none => .ok (robot.invoke engine .run outcome)
      | some error =>
          if engine.defines .run && !platform.safeFunctions then
            .error (.uncaught error)
          else
            .ok (robot.invoke engine .run outcome)

def luaPrepare (robot : RobotMain K τ) (start : SessionStart K) :
    Except Halt (RobotMain K τ) :=
  let robot := { robot with shooter := robot.shooter.reset start.config }
  if !robot.luaErrorEncountered then robot.checkedCall .prepare start.prepare else .ok robot

/-- The `if` statement of `RobotMain::luaPeriodic`. -/
def luaDrive (platform : Platform K τ π) (robot : RobotMain K τ) (pad : GamepadReading K)
    (outcome : LuaOutcome K) : Except Halt (RobotMain K τ) :=
  let robot := robot.checkControllerConnection pad
  if !robot.gamepadConnected || robot.luaErrorEncountered then
    .ok robot.driveDisabled
  else
    match robot.processParameters pad with
    | .error halt => .error halt
    | .ok robot =>
        if !robot.protectedLuaCalls then
          robot.runEngine platform outcome
        else if !robot.luaErrorEncountered then
          robot.checkedCall .safeRun outcome
        else
          .ok robot

def luaPeriodic (platform : Platform K τ π) (robot : RobotMain K τ) (pad : GamepadReading K)
    (outcome : LuaOutcome K) : Except Halt (RobotMain K τ) :=
  match robot.luaDrive platform pad outcome with
  | .error halt => .error halt
  | .ok robot => .ok { robot with shooter := robot.shooter.process }

def luaExit (robot : RobotMain K τ) (outcome : LuaOutcome K) : Except Halt (RobotMain K τ) :=
  if !robot.luaErrorEncountered then robot.checkedCall .cleanup outcome else .ok robot

/-- The common end of `RobotMain::TeleopInit` and `RobotMain::TestInit`. -/
def luaInit (robot : RobotMain K τ) (start : SessionStart K) : Except Halt (RobotMain K τ) :=
  let robot := robot.safeLoadEngine start
  if robot.luaErrorEncountered then .ok robot else robot.luaPrepare start

/-- `RobotMain::TeleopInit`: the bot is `teleop.bot`. -/
def teleopInit (robot : RobotMain K τ) (start : SessionStart K) :
    Except Halt (RobotMain K τ) :=
  luaInit { robot with protectedLuaCalls := false } start

/-- `RobotMain::TestInit`: the bot is the one chosen on the dashboard. -/
def testInit (robot : RobotMain K τ) (start : SessionStart K) : Except Halt (RobotMain K τ) :=
  luaInit { robot with protectedLuaCalls := true, luaErrorEncountered := false } start

end Lua

/-- `RobotMain::RobotMain` followed by `RobotMain::RobotInit`. -/
def create (platform : Platform K τ π) (config : Config K) (now : K) (reads : ModeReads τ) :
    RobotMain K τ :=
  reloadTrajectory platform
    { drivetrain := .create config platform.isReal platform.expLog now
      lifter := .setVoltage 0
      shooter := .create config
      engine := none
      params := .create
      gamepadConnected := false
      autoInfo := defaultInfo platform
      timer := now
      hasShot := false
      hasStartedMoving := false
      luaErrorEncountered := false
      protectedLuaCalls := false
      sessions := 0
      failedLoads := []
      engineCalls := []
      errorLog := [] }
    reads

end RobotMain

end RobotFirmware
