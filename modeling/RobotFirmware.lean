import RobotFirmware.Runs
import RobotFirmware.BinaryRounding
import RobotFirmware.Config
import RobotFirmware.Shooter
import RobotFirmware.ShooterReference
import RobotFirmware.Drivetrain
import RobotFirmware.Bindings
import RobotFirmware.Parameters
import RobotFirmware.Engine
import RobotFirmware.AutoMode
import RobotFirmware.RobotMain
import RobotFirmware.TimedRobot
import RobotFirmware.AutonomousTick
import RobotFirmware.TrajectoryReload
import RobotFirmware.AutonomousPhases
import RobotFirmware.AutonomousHistory
import RobotFirmware.TeleopProgram
import RobotFirmware.TeleopTick
import RobotFirmware.TeleopIntake
import RobotFirmware.TeleopShots
import RobotFirmware.TeleopLifter
import RobotFirmware.TeleopShooter
import RobotFirmware.EngineHistory
import RobotFirmware.LuaTick
import RobotFirmware.EngineProtocol
import RobotFirmware.LuaErrors
import RobotFirmware.FailureLatch
import RobotFirmware.ActuatorCalls
import RobotFirmware.FailSafe
import RobotFirmware.TestSessions
import RobotFirmware.MotorOutputs
import RobotFirmware.ShooterTiming
import RobotFirmware.IdleOutputs
import RobotFirmware.ActuatorHistory
import RobotFirmware.RefusedShot
import RobotFirmware.ShooterCounters
import RobotFirmware.PackagePath
import RobotFirmware.Scripting
import RobotFirmware.Lifecycles
import RobotFirmware.ModuleSearch
import RobotFirmware.Bootstrap
import RobotFirmware.Startup
import RobotFirmware.SlewRate
import RobotFirmware.NormalisedDrive
import RobotFirmware.RangeConversion
import RobotFirmware.DriveLimits
import RobotFirmware.ParameterSnapshot
import RobotFirmware.TeleopDrive
import RobotFirmware.ReleasedSticks
import RobotFirmware.HeldSticks
import RobotFirmware.TeleopMachine
import RobotFirmware.LuaBindings
import RobotFirmware.BindingRelease
import RobotFirmware.RobotBindings
