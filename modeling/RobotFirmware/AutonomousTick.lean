import RobotFirmware.RobotMain

/-!
# One tick of the autonomous mode

`RobotMain::AutonomousPeriodic` shoots at most once, waits while the shooter
is shooting, and otherwise moves.  The lemmas below say what a tick of each
kind does to every member that the mode uses.
-/

namespace RobotFirmware

namespace RobotMain

variable {K τ π : Type*}

/-- The reading of the clock from which a moving tick counts: the timer is
restarted by the first of them. -/
def motionStart (robot : RobotMain K τ) (tick : AutoTick K π) : K :=
  if robot.hasStartedMoving then robot.timer else tick.restartAt

theorem motionStart_of_moving {robot : RobotMain K τ} (moving : robot.hasStartedMoving = true)
    (tick : AutoTick K π) : robot.motionStart tick = robot.timer := by
  rw [motionStart, if_pos moving]

theorem motionStart_of_still {robot : RobotMain K τ} (still : robot.hasStartedMoving = false)
    (tick : AutoTick K π) : robot.motionStart tick = tick.restartAt := by
  simp [motionStart, still]

/-- The shooter that the next tick processes: it takes a `shoot` call in the
first tick of a session only. -/
def pendingShooter (robot : RobotMain K τ) : Shooter K :=
  if robot.hasShot then robot.shooter else robot.shooter.shoot

variable [Field K] [LinearOrder K]

section Shoot

variable (robot : RobotMain K τ)

theorem autonomousShoot_eq :
    robot.autonomousShoot =
      { robot with shooter := robot.pendingShooter.process, hasShot := true } := by
  cases shot : robot.hasShot <;> simp [autonomousShoot, pendingShooter, shot]

@[simp]
theorem hasShot_autonomousShoot : robot.autonomousShoot.hasShot = true := by
  rw [autonomousShoot_eq]

theorem shooter_autonomousShoot :
    robot.autonomousShoot.shooter = robot.pendingShooter.process := by
  rw [autonomousShoot_eq]

@[simp]
theorem hasStartedMoving_autonomousShoot :
    robot.autonomousShoot.hasStartedMoving = robot.hasStartedMoving := by
  rw [autonomousShoot_eq]

@[simp]
theorem timer_autonomousShoot : robot.autonomousShoot.timer = robot.timer := by
  rw [autonomousShoot_eq]

@[simp]
theorem autoInfo_autonomousShoot : robot.autonomousShoot.autoInfo = robot.autoInfo := by
  rw [autonomousShoot_eq]

end Shoot

@[simp]
theorem motionStart_autonomousShoot (robot : RobotMain K τ) (tick : AutoTick K π) :
    robot.autonomousShoot.motionStart tick = robot.motionStart tick := by
  rw [autonomousShoot_eq]
  rfl

section Move

variable (platform : Platform K τ π) (robot : RobotMain K τ) (tick : AutoTick K π)

theorem autonomousMove_eq :
    robot.autonomousMove platform tick =
      { robot with
        hasStartedMoving := true
        timer := robot.motionStart tick
        drivetrain :=
          { robot.drivetrain with
            setPoint :=
              moveSetPoint platform robot.autoInfo (tick.now - robot.motionStart tick)
                tick.pose } } := by
  cases moving : robot.hasStartedMoving <;>
    simp [autonomousMove, startMoving, motionStart, moving, Drivetrain.drive]

@[simp]
theorem hasStartedMoving_autonomousMove :
    (robot.autonomousMove platform tick).hasStartedMoving = true := by
  rw [autonomousMove_eq]

@[simp]
theorem timer_autonomousMove :
    (robot.autonomousMove platform tick).timer = robot.motionStart tick := by
  rw [autonomousMove_eq]

@[simp]
theorem hasShot_autonomousMove :
    (robot.autonomousMove platform tick).hasShot = robot.hasShot := by
  rw [autonomousMove_eq]

@[simp]
theorem autoInfo_autonomousMove :
    (robot.autonomousMove platform tick).autoInfo = robot.autoInfo := by
  rw [autonomousMove_eq]

@[simp]
theorem shooter_autonomousMove :
    (robot.autonomousMove platform tick).shooter = robot.shooter := by
  rw [autonomousMove_eq]

@[simp]
theorem setPoint_autonomousMove :
    (robot.autonomousMove platform tick).drivetrain.setPoint =
      moveSetPoint platform robot.autoInfo (tick.now - robot.motionStart tick) tick.pose := by
  rw [autonomousMove_eq]

end Move

section Periodic

variable (platform : Platform K τ π) {robot : RobotMain K τ} (tick : AutoTick K π)

theorem autonomousPeriodic_of_shooting
    (shooting : robot.autonomousShoot.shooter.state = .shooting) :
    robot.autonomousPeriodic platform tick = robot.autonomousShoot.driveDisabled := by
  simp [autonomousPeriodic, shooting]

theorem autonomousPeriodic_of_not_shooting
    (notShooting : robot.autonomousShoot.shooter.state ≠ .shooting) :
    robot.autonomousPeriodic platform tick =
      robot.autonomousShoot.autonomousMove platform tick := by
  simp [autonomousPeriodic, notShooting]

/-- Whether or not it moves, a tick processes the shooter and changes nothing
but the members of the autonomous mode. -/
theorem autonomousPeriodic_frame (robot : RobotMain K τ) :
    ∃ drivetrain timer hasStartedMoving, robot.autonomousPeriodic platform tick =
      { robot with
        drivetrain := drivetrain
        shooter := robot.pendingShooter.process
        timer := timer
        hasShot := true
        hasStartedMoving := hasStartedMoving } := by
  by_cases shooting : robot.autonomousShoot.shooter.state = .shooting
  · rw [autonomousPeriodic_of_shooting platform tick shooting, autonomousShoot_eq]
    exact ⟨_, _, _, rfl⟩
  · rw [autonomousPeriodic_of_not_shooting platform tick shooting, autonomousMove_eq,
      autonomousShoot_eq]
    exact ⟨_, _, _, rfl⟩

@[simp]
theorem shooter_autonomousPeriodic (robot : RobotMain K τ) :
    (robot.autonomousPeriodic platform tick).shooter = robot.autonomousShoot.shooter := by
  obtain ⟨_, _, _, ticked⟩ := robot.autonomousPeriodic_frame platform tick
  rw [ticked, shooter_autonomousShoot]

@[simp]
theorem autoInfo_autonomousPeriodic (robot : RobotMain K τ) :
    (robot.autonomousPeriodic platform tick).autoInfo = robot.autoInfo := by
  obtain ⟨_, _, _, ticked⟩ := robot.autonomousPeriodic_frame platform tick
  rw [ticked]

@[simp]
theorem hasShot_autonomousPeriodic (robot : RobotMain K τ) :
    (robot.autonomousPeriodic platform tick).hasShot = true := by
  obtain ⟨_, _, _, ticked⟩ := robot.autonomousPeriodic_frame platform tick
  rw [ticked]

@[simp]
theorem pendingShooter_autonomousPeriodic (robot : RobotMain K τ) :
    (robot.autonomousPeriodic platform tick).pendingShooter = robot.pendingShooter.process := by
  rw [pendingShooter, hasShot_autonomousPeriodic, if_pos rfl, shooter_autonomousPeriodic,
    shooter_autonomousShoot]

end Periodic

end RobotMain

end RobotFirmware
