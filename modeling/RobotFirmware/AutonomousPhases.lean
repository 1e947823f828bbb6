import RobotFirmware.TrajectoryReload

/-!
# The phases of an autonomous session

A session first waits for the shooter, then follows the trajectory, then
rotates in place, and finally stands still.  The proof walks through the
ticks with the flags, the timer and the shooter's counter as invariant, and
splits the moving ticks by the time since motion began.
-/

namespace RobotFirmware

namespace RobotMain

open Runs

variable {K τ π : Type*} [Field K] [LinearOrder K]

/-- The tick ends with the shooter still shooting and the robot standing. -/
def Waits (outcome : AutoTick K π × RobotMain K τ) : Prop :=
  outcome.2.shooter.state = .shooting ∧ outcome.2.drivetrain.setPoint = ⟨0, 0⟩

/-- The tick follows the trajectory, whose time has not run out. -/
def Follows (platform : Platform K τ π) (info : AutoModeInfo τ) (motionStart : K)
    (outcome : AutoTick K π × RobotMain K τ) : Prop :=
  let elapsed := outcome.1.now - motionStart
  let speeds := platform.follow info.trajectory elapsed outcome.1.pose
  outcome.2.shooter.state ≠ .shooting ∧
    elapsed ≤ platform.totalTime info.trajectory ∧
      outcome.2.drivetrain.setPoint =
        ⟨(if info.reverse then speeds.vx * -1 else speeds.vx) * 0.5, speeds.omega⟩

/-- The tick rotates in place, within three seconds after the trajectory. -/
def Rotates (platform : Platform K τ π) (info : AutoModeInfo τ) (motionStart : K)
    (outcome : AutoTick K π × RobotMain K τ) : Prop :=
  let elapsed := outcome.1.now - motionStart
  outcome.2.shooter.state ≠ .shooting ∧
    platform.totalTime info.trajectory < elapsed ∧
      elapsed < platform.totalTime info.trajectory + 3.0 ∧
        outcome.2.drivetrain.setPoint = ⟨0, 60.0 * 0.3 * platform.radiansPerDegree⟩

/-- The tick stands still for good. -/
def Stands (platform : Platform K τ π) (info : AutoModeInfo τ) (motionStart : K)
    (outcome : AutoTick K π × RobotMain K τ) : Prop :=
  outcome.2.shooter.state ≠ .shooting ∧
    platform.totalTime info.trajectory + 3.0 ≤ outcome.1.now - motionStart ∧
      outcome.2.drivetrain.setPoint = ⟨0, 0⟩

/-- The tick moves, in whichever phase its time puts it. -/
def Moves (platform : Platform K τ π) (info : AutoModeInfo τ) (motionStart : K)
    (outcome : AutoTick K π × RobotMain K τ) : Prop :=
  outcome.2.shooter.state ≠ .shooting ∧
    outcome.2.drivetrain.setPoint =
      moveSetPoint platform info (outcome.1.now - motionStart) outcome.1.pose

/-- The clock readings of a session, in order. -/
def clockReadings (ticks : List (AutoTick K π)) : List K :=
  ticks.flatMap fun tick => [tick.restartAt, tick.now]

/-- The ticks of a session wait, then follow the trajectory, then rotate, then
stand.  Time counts from the first tick that does not wait, the wait is
bounded by the counter of its shot, and at most one tick starts a shot. -/
def PhasesInOrder (platform : Platform K τ π) (session : RobotMain K τ)
    (ticks : List (AutoTick K π)) : Prop :=
  (∃ waiting following rotating standing motionStart,
    outcomes (autonomousPeriodic platform) session ticks =
        waiting ++ (following ++ (rotating ++ standing)) ∧
      (∀ outcome ∈ waiting, Waits outcome) ∧
        (∀ outcome ∈ following, Follows platform session.autoInfo motionStart outcome) ∧
          (∀ outcome ∈ rotating, Rotates platform session.autoInfo motionStart outcome) ∧
            (∀ outcome ∈ standing, Stands platform session.autoInfo motionStart outcome) ∧
              (∀ first ∈ (following ++ (rotating ++ standing)).head?,
                  motionStart = first.1.restartAt) ∧
                waiting.length ≤ session.pendingShooter.tick.toNat) ∧
    (steps (autonomousPeriodic platform) session ticks).countP
      (fun taken => taken.1.startsShot) ≤ 1

section Phases

variable (platform : Platform K τ π)

theorem moves_of_moving {robot : RobotMain K τ} (shot : robot.hasShot = true)
    (moving : robot.hasStartedMoving = true) (notShooting : robot.shooter.state ≠ .shooting)
    (ticks : List (AutoTick K π)) :
    ∀ outcome ∈ outcomes (autonomousPeriodic platform) robot ticks,
      Moves platform robot.autoInfo robot.timer outcome := by
  induction ticks generalizing robot with
  | nil => simp
  | cons tick rest ih =>
      have stays : robot.autonomousShoot.shooter.state ≠ .shooting := by
        rw [shooter_autonomousShoot, pendingShooter, if_pos shot]
        exact Shooter.process_state_ne_shooting notShooting
      have tickEq := autonomousPeriodic_of_not_shooting platform tick stays
      have timerEq : (robot.autonomousPeriodic platform tick).timer = robot.timer := by
        simp [tickEq, motionStart_of_moving moving]
      have later := ih (hasShot_autonomousPeriodic platform tick robot)
        (by simp [tickEq]) (by simpa using stays)
      rw [autoInfo_autonomousPeriodic, timerEq] at later
      intro outcome member
      rcases List.mem_cons.mp member with rfl | further
      · refine ⟨by simpa using stays, ?_⟩
        simp [tickEq, motionStart_of_moving moving]
      · exact later outcome further

/-- A session waits for the shooter, for no longer than its counter says, and
then moves, by a timer restarted in the first moving tick. -/
theorem waits_then_moves {robot : RobotMain K τ} (still : robot.hasStartedMoving = false)
    (ticks : List (AutoTick K π)) :
    ∃ waiting moving motionStart,
      outcomes (autonomousPeriodic platform) robot ticks = waiting ++ moving ∧
        (∀ outcome ∈ waiting, Waits outcome) ∧
          (∀ outcome ∈ moving, Moves platform robot.autoInfo motionStart outcome) ∧
            (∀ first ∈ moving.head?, motionStart = first.1.restartAt) ∧
              waiting.length ≤ robot.pendingShooter.tick.toNat := by
  induction ticks generalizing robot with
  | nil => exact ⟨[], [], 0, rfl, by simp, by simp, by simp, by simp⟩
  | cons tick rest ih =>
      by_cases shooting : robot.autonomousShoot.shooter.state = .shooting
      · have tickEq := autonomousPeriodic_of_shooting platform tick shooting
        have stillNext : (robot.autonomousPeriodic platform tick).hasStartedMoving = false := by
          simpa [tickEq, driveDisabled] using still
        obtain ⟨waiting, moving, motionStart, split, allWait, allMove, first, bound⟩ :=
          ih stillNext
        -- The shot goes on, so its counter was above one.
        have pending : robot.pendingShooter.state = .shooting := by
          by_contra notShooting
          apply Shooter.process_state_ne_shooting notShooting
          rwa [← shooter_autonomousShoot]
        have counter : 1 < robot.pendingShooter.tick := by
          rw [shooter_autonomousShoot, Shooter.process_shooting pending] at shooting
          by_contra last
          simp [show robot.pendingShooter.tick - 1 ≤ 0 by omega] at shooting
        rw [pendingShooter_autonomousPeriodic, Shooter.process_shooting pending] at bound
        refine ⟨(tick, robot.autonomousPeriodic platform tick) :: waiting, moving, motionStart,
          by simp [split], ?_, ?_, first, ?_⟩
        · intro outcome member
          rcases List.mem_cons.mp member with rfl | later
          · exact ⟨by simpa using shooting, by simp [tickEq, driveDisabled, Drivetrain.drive]⟩
          · exact allWait outcome later
        · simpa using allMove
        · simp only [List.length_cons]
          dsimp only at bound
          omega
      · have tickEq := autonomousPeriodic_of_not_shooting platform tick shooting
        refine ⟨[], outcomes (autonomousPeriodic platform) robot (tick :: rest), tick.restartAt,
          rfl, by simp, ?_, by simp, by simp⟩
        have later := moves_of_moving platform (hasShot_autonomousPeriodic platform tick robot)
          (by simp [tickEq]) (by simpa using shooting) rest
        rw [autoInfo_autonomousPeriodic] at later
        intro outcome member
        rcases List.mem_cons.mp member with rfl | further
        · refine ⟨by simpa using shooting, ?_⟩
          simp [tickEq, motionStart_of_still still]
        · simpa [tickEq, motionStart_of_still still] using later outcome further

theorem countP_startsShot_le (robot : RobotMain K τ) (ticks : List (AutoTick K π)) :
    (steps (autonomousPeriodic platform) robot ticks).countP (fun taken => taken.1.startsShot) ≤
      1 := by
  cases ticks with
  | nil => simp
  | cons first later =>
      have none : (steps (autonomousPeriodic platform)
          (robot.autonomousPeriodic platform first) later).countP
            (fun taken => taken.1.startsShot) = 0 := by
        rw [List.countP_eq_zero]
        intro taken member
        simp [startsShot, hasShot_of_mem_steps platform robot first taken member]
      rw [steps_cons, List.countP_cons, none]
      split <;> simp

/-- The moves of a session, in the order of its clock, are first those of the
trajectory, then those of the rotation, then those of the end. -/
theorem exists_split_of_moves [IsStrictOrderedRing K] {info : AutoModeInfo τ} {motionStart : K}
    {moving : List (AutoTick K π × RobotMain K τ)}
    (allMove : ∀ outcome ∈ moving, Moves platform info motionStart outcome)
    (ordered : moving.Pairwise fun earlier later => earlier.1.now ≤ later.1.now) :
    ∃ following rotating standing, moving = following ++ (rotating ++ standing) ∧
      (∀ outcome ∈ following, Follows platform info motionStart outcome) ∧
        (∀ outcome ∈ rotating, Rotates platform info motionStart outcome) ∧
          ∀ outcome ∈ standing, Stands platform info motionStart outcome := by
  obtain ⟨following, after, rfl, inTime, late⟩ := exists_split_of_pairwise
    (fun outcome : AutoTick K π × RobotMain K τ =>
      outcome.1.now - motionStart ≤ platform.totalTime info.trajectory)
    (ordered.imp fun order inTime => (sub_le_sub_right order motionStart).trans inTime)
  obtain ⟨rotating, standing, rfl, rotatesInTime, rotated⟩ := exists_split_of_pairwise
    (fun outcome : AutoTick K π × RobotMain K τ =>
      outcome.1.now - motionStart < platform.totalTime info.trajectory + 3.0)
    ((List.pairwise_append.mp ordered).2.1.imp fun order inTime =>
      (sub_le_sub_right order motionStart).trans_lt inTime)
  refine ⟨following, rotating, standing, rfl, ?_, ?_, ?_⟩
  · intro outcome member
    obtain ⟨notShooting, setPoint⟩ := allMove outcome (by simp [member])
    have elapsed := inTime outcome member
    exact ⟨notShooting, elapsed, by rw [setPoint, moveSetPoint, if_pos elapsed]⟩
  · intro outcome member
    obtain ⟨notShooting, setPoint⟩ := allMove outcome (by simp [member])
    have past := late outcome (by simp [member])
    have elapsed := rotatesInTime outcome member
    exact ⟨notShooting, not_le.mp past, elapsed, by
      rw [setPoint, moveSetPoint, if_neg past, if_pos elapsed]⟩
  · intro outcome member
    obtain ⟨notShooting, setPoint⟩ := allMove outcome (by simp [member])
    have past := late outcome (by simp [member])
    have elapsed := rotated outcome member
    exact ⟨notShooting, not_lt.mp elapsed, by
      rw [setPoint, moveSetPoint, if_neg past, if_neg elapsed]⟩

theorem pairwise_now_outcomes (robot : RobotMain K τ) {ticks : List (AutoTick K π)}
    (clock : (clockReadings ticks).Pairwise (· ≤ ·)) :
    (outcomes (autonomousPeriodic platform) robot ticks).Pairwise
      fun earlier later => earlier.1.now ≤ later.1.now := by
  have ordered : ticks.Pairwise fun earlier later => earlier.now ≤ later.now := by
    apply ((List.pairwise_flatMap.mp clock).2).imp
    intro earlier later order
    exact order earlier.now (by simp) later.now (by simp)
  rw [← map_fst_outcomes (autonomousPeriodic platform) robot ticks, List.pairwise_map] at ordered
  exact ordered

/-- **Autonomous phases.** After the normal path of `reloadTrajectory`, and
whatever earlier modes left in the shooter, a session goes through its phases
in order. -/
theorem autonomous_session_phases [IsStrictOrderedRing K] (robot : RobotMain K τ)
    (reads : ModeReads τ) (returns : reads.throws = false) (begun : K)
    (ticks : List (AutoTick K π)) (clock : (begun :: clockReadings ticks).Pairwise (· ≤ ·)) :
    PhasesInOrder platform (robot.autonomousInit platform reads begun) ticks := by
  set session := robot.autonomousInit platform reads begun with sessionEq
  have still : session.hasStartedMoving = false := by
    obtain ⟨trajectory, -, normal⟩ := reloadTrajectory_of_not_throws platform robot returns
    simp [sessionEq, autonomousInit, normal]
  obtain ⟨waiting, moving, motionStart, split, allWait, allMove, first, bound⟩ :=
    waits_then_moves platform still ticks
  have ordered := pairwise_now_outcomes platform session
    (List.pairwise_cons.mp clock).2
  rw [split] at ordered
  obtain ⟨following, rotating, standing, rfl, allFollow, allRotate, allStand⟩ :=
    exists_split_of_moves platform allMove (List.pairwise_append.mp ordered).2.1
  exact ⟨⟨waiting, following, rotating, standing, motionStart, split, allWait, allFollow,
    allRotate, allStand, first, bound⟩, countP_startsShot_le platform session ticks⟩

/-- A session on the bench that shoots in its first tick and reaches all four
phases. -/
theorem autonomous_session_phases_bench :
    PhasesInOrder .bench
      (autonomousInit .bench (.create .bench .bench 0 (.bench (.boolean true)))
        (.bench (.boolean true)) 0)
      [⟨1, 1, ()⟩, ⟨2, 2, ()⟩, ⟨4, 4, ()⟩, ⟨7, 7, ()⟩] :=
  autonomous_session_phases .bench (.create .bench .bench 0 (.bench (.boolean true)))
    (.bench (.boolean true)) rfl 0 [⟨1, 1, ()⟩, ⟨2, 2, ()⟩, ⟨4, 4, ()⟩, ⟨7, 7, ()⟩]
    (by decide +kernel)

end Phases

end RobotMain

end RobotFirmware
