import RobotFirmware.AutonomousTick
import RobotFirmware.Runs

/-!
# Reloading the autonomous mode

`RobotMain::reloadTrajectory` reads the `shoot` flag of the selected mode
twice, with different defaults, and its `catch` block leaves the flags of the
previous mode in place.  This file determines when the installed mode and the
flags agree.
-/

namespace RobotFirmware

namespace ModeReads

variable {τ : Type*}

/-- The mode that is installed when nothing throws. -/
def installed (reads : ModeReads τ) (trajectory : τ) : AutoModeInfo τ :=
  ⟨reads.get, reads.table.reverse.getOr true, reads.table.shoot.getOr false, trajectory⟩

@[simp]
theorem attempt_none {α : Type*} (result : α) : attempt none result = .ok result :=
  rfl

@[simp]
theorem attempt_some {α : Type*} (what : String) (result : α) :
    attempt (some what) result = .error what :=
  rfl

theorem eq_none_of_not_throws {reads : ModeReads τ} (returns : reads.throws = false) :
    reads.infoShootThrows = none ∧ reads.infoReverseThrows = none ∧
      reads.shootThrows = none ∧ ∃ trajectory, reads.trajectory = .ok trajectory := by
  simp only [throws, Bool.or_eq_false_iff, Option.isSome_eq_false_iff,
    Option.isNone_iff_eq_none, Bool.not_eq_false'] at returns
  obtain ⟨⟨⟨infoShoot, infoReverse⟩, generated⟩, shoot⟩ := returns
  refine ⟨infoShoot, infoReverse, shoot, ?_⟩
  cases read : reads.trajectory with
  | error what => simp [read, Except.isOk, Except.toBool] at generated
  | ok trajectory => exact ⟨trajectory, rfl⟩

end ModeReads

namespace RobotMain

open Runs

variable {K τ π : Type*}

theorem reloadTrajectory_of_not_throws (platform : Platform K τ π) (robot : RobotMain K τ)
    {reads : ModeReads τ} (returns : reads.throws = false) :
    ∃ trajectory, reads.trajectory = .ok trajectory ∧
      robot.reloadTrajectory platform reads =
        { robot with
          autoInfo := reads.installed trajectory
          hasShot := !reads.table.shoot.getOr true
          hasStartedMoving := false } := by
  obtain ⟨infoShoot, infoReverse, shoot, trajectory, generated⟩ :=
    ModeReads.eq_none_of_not_throws returns
  refine ⟨trajectory, generated, ?_⟩
  simp [reloadTrajectory, ModeReads.info, ModeReads.shouldShoot, ModeReads.installed,
    infoShoot, infoReverse, shoot, generated, defaultInfo]

/-- The `catch` path of `reloadTrajectory`, wherever the exception is thrown. -/
theorem reloadTrajectory_of_throws (platform : Platform K τ π) (robot : RobotMain K τ)
    {reads : ModeReads τ} (throws : reads.throws = true) :
    robot.reloadTrajectory platform reads = robot.loadFallback platform := by
  simp only [reloadTrajectory, ModeReads.info, ModeReads.shouldShoot]
  cases infoShoot : reads.infoShootThrows with
  | some what => simp
  | none =>
      cases infoReverse : reads.infoReverseThrows with
      | some what => simp
      | none =>
          cases generated : reads.trajectory with
          | error what => simp
          | ok trajectory =>
              cases shoot : reads.shootThrows with
              | some what => simp [loadFallback]
              | none =>
                  simp [ModeReads.throws, infoShoot, infoReverse, generated, shoot,
                    Except.isOk, Except.toBool] at throws

/-- The flags say what the installed mode says. -/
def ShotDecisionAgrees (robot : RobotMain K τ) : Prop :=
  robot.hasShot = !robot.autoInfo.shoot ∧ robot.hasStartedMoving = false

/-- The tick's `shoot` call moves the shooter into `Shooting`. -/
def startsShot (robot : RobotMain K τ) : Bool :=
  !robot.hasShot && !robot.shooter.isShooting && robot.shooter.shoot.isShooting

theorem startsShot_iff (robot : RobotMain K τ) :
    robot.startsShot = true ↔ robot.hasShot = false ∧ robot.shooter.state = .idle := by
  cases shot : robot.hasShot <;> cases state : robot.shooter.state <;>
    simp [startsShot, Shooter.shoot, Shooter.isShooting, shot, state]

theorem pendingShooter_shooting_iff (robot : RobotMain K τ) :
    robot.pendingShooter.state = .shooting ↔
      robot.shooter.state = .shooting ∨ robot.hasShot = false ∧ robot.shooter.state = .idle := by
  cases shot : robot.hasShot <;> cases state : robot.shooter.state <;>
    simp [pendingShooter, Shooter.shoot, shot, state]

theorem agrees_reloadTrajectory_iff (platform : Platform K τ π) (robot : RobotMain K τ)
    (reads : ModeReads τ) :
    (robot.reloadTrajectory platform reads).ShotDecisionAgrees ↔
      (reads.throws = false ∧ ∃ shoot, reads.table.shoot = .boolean shoot) ∨
        (reads.throws = true ∧ robot.hasShot = true ∧ robot.hasStartedMoving = false) := by
  cases throws : reads.throws with
  | true =>
      have fallback := reloadTrajectory_of_throws platform robot throws
      simp [fallback, ShotDecisionAgrees, loadFallback, defaultInfo]
  | false =>
      obtain ⟨trajectory, -, normal⟩ := reloadTrajectory_of_not_throws platform robot throws
      cases shoot : reads.table.shoot <;>
        simp [normal, ShotDecisionAgrees, ModeReads.installed, shoot, LuaField.getOr]

/-- The mode that is installed shoots if nothing throws and the table says so. -/
theorem shoot_autoInfo_reloadTrajectory (platform : Platform K τ π) (robot : RobotMain K τ)
    (reads : ModeReads τ) :
    (robot.reloadTrajectory platform reads).autoInfo.shoot =
      (!reads.throws && reads.table.shoot.getOr false) := by
  cases throws : reads.throws with
  | true => simp [reloadTrajectory_of_throws platform robot throws, loadFallback, defaultInfo]
  | false =>
      obtain ⟨trajectory, -, normal⟩ := reloadTrajectory_of_not_throws platform robot throws
      simp [normal, ModeReads.installed]

theorem shooter_reloadTrajectory (platform : Platform K τ π) (robot : RobotMain K τ)
    (reads : ModeReads τ) : (robot.reloadTrajectory platform reads).shooter = robot.shooter := by
  obtain ⟨_, _, _, reloaded⟩ := reloadTrajectory_frame platform robot reads
  rw [reloaded]

variable [Field K] [LinearOrder K]

theorem hasShot_of_mem_steps (platform : Platform K τ π) (robot : RobotMain K τ)
    (first : AutoTick K π) {later : List (AutoTick K π)} :
    ∀ taken ∈ steps (autonomousPeriodic platform) (robot.autonomousPeriodic platform first) later,
      taken.1.hasShot = true :=
  (invariant_of_steps (autonomousPeriodic platform) (fun state => state.hasShot = true)
    (fun _ _ => True) (fun state tick _ _ => hasShot_autonomousPeriodic platform tick state)
    (hasShot_autonomousPeriodic platform first robot) (fun _ _ => trivial)).2

/-- Only the first tick of a session can start a shot. -/
theorem exists_startsShot_iff (platform : Platform K τ π) (session : RobotMain K τ)
    (first : AutoTick K π) (later : List (AutoTick K π)) :
    (∃ taken ∈ steps (autonomousPeriodic platform) session (first :: later),
      taken.1.startsShot = true) ↔ session.startsShot = true := by
  constructor
  · rintro ⟨taken, member, starts⟩
    rcases List.mem_cons.mp member with here | further
    · rwa [here] at starts
    · have shot := hasShot_of_mem_steps platform session first taken further
      rw [startsShot_iff, shot] at starts
      cases starts.1
  · intro starts
    exact ⟨(session, first), by simp, starts⟩

/-- A session that serves a shot does so from its first tick on. -/
theorem exists_serves_iff (platform : Platform K τ π) (session : RobotMain K τ)
    (first : AutoTick K π) (later : List (AutoTick K π)) :
    (∃ taken ∈ steps (autonomousPeriodic platform) session (first :: later),
      taken.1.pendingShooter.state = .shooting) ↔ session.pendingShooter.state = .shooting := by
  constructor
  · rintro ⟨taken, member, serves⟩
    by_contra notShooting
    refine (invariant_of_steps (autonomousPeriodic platform)
      (fun state => state.pendingShooter.state ≠ .shooting) (fun _ _ => True) ?_
      notShooting (fun _ _ => trivial)).2 taken member serves
    intro state tick notShooting _
    rw [pendingShooter_autonomousPeriodic]
    exact Shooter.process_state_ne_shooting notShooting
  · intro serves
    exact ⟨(session, first), by simp, serves⟩

/-- A session does what its mode says: it starts a shot, and it serves one,
exactly if the mode shoots. -/
structure FiresAsDecided (platform : Platform K τ π) (session : RobotMain K τ)
    (ticks : List (AutoTick K π)) : Prop where
  starts : (∃ taken ∈ steps (autonomousPeriodic platform) session ticks,
    taken.1.startsShot = true) ↔ session.autoInfo.shoot = true
  serves : (∃ taken ∈ steps (autonomousPeriodic platform) session ticks,
    taken.1.pendingShooter.state = .shooting) ↔ session.autoInfo.shoot = true

/-- What is left in the shooter does not get in the way of the mode: it can
start a shot that is wanted, and no shot is running that is not. -/
def FreeFor (shoot : Bool) (shooter : Shooter K) : Prop :=
  if shoot then shooter.state = .idle else shooter.state ≠ .shooting

theorem firesAsDecided_iff (platform : Platform K τ π) {session : RobotMain K τ}
    (agrees : session.hasShot = !session.autoInfo.shoot) (first : AutoTick K π)
    (later : List (AutoTick K π)) :
    FiresAsDecided platform session (first :: later) ↔
      FreeFor session.autoInfo.shoot session.shooter := by
  have starts := exists_startsShot_iff platform session first later
  have serves := exists_serves_iff platform session first later
  rw [startsShot_iff] at starts
  rw [pendingShooter_shooting_iff] at serves
  have both : (session.hasShot = false ∧ session.shooter.state = .idle ↔
        session.autoInfo.shoot = true) ∧
      (session.shooter.state = .shooting ∨
        session.hasShot = false ∧ session.shooter.state = .idle ↔
          session.autoInfo.shoot = true) ↔
        FreeFor session.autoInfo.shoot session.shooter := by
    cases shoot : session.autoInfo.shoot <;> cases state : session.shooter.state <;>
      simp [FreeFor, agrees, shoot, state]
  rw [← serves, ← starts] at both
  exact ⟨fun fires => both.mp ⟨fires.starts, fires.serves⟩,
    fun free => ⟨(both.mpr free).1, (both.mpr free).2⟩⟩

/-- The flags agree with the installed mode exactly when nothing throws and the
table has a boolean `shoot`, or something throws and the flags left by the
previous mode happen to fit the fallback.  They agree and every session that
follows fires as the installed mode says exactly when, besides, the shooter has
been left in a state that lets it. -/
theorem shotDecisionAgrees_reloadTrajectory_iff (platform : Platform K τ π)
    (robot : RobotMain K τ) (reads : ModeReads τ) :
    let reloaded := robot.reloadTrajectory platform reads
    (reloaded.ShotDecisionAgrees ↔
        (reads.throws = false ∧ ∃ shoot, reads.table.shoot = .boolean shoot) ∨
          (reads.throws = true ∧ robot.hasShot = true ∧ robot.hasStartedMoving = false)) ∧
      ∀ now first later,
        (reloaded.ShotDecisionAgrees ∧
            FiresAsDecided platform (robot.autonomousInit platform reads now) (first :: later)) ↔
          (reads.throws = false ∧
              ∃ shoot, reads.table.shoot = .boolean shoot ∧ FreeFor shoot robot.shooter) ∨
            (reads.throws = true ∧ robot.hasShot = true ∧ robot.hasStartedMoving = false ∧
              FreeFor false robot.shooter) := by
  intro reloaded
  refine ⟨agrees_reloadTrajectory_iff platform robot reads, fun now first later => ?_⟩
  have fires : reloaded.ShotDecisionAgrees →
      (FiresAsDecided platform (robot.autonomousInit platform reads now) (first :: later) ↔
        FreeFor (!reads.throws && reads.table.shoot.getOr false) robot.shooter) := by
    rintro ⟨agrees, -⟩
    have session : (robot.autonomousInit platform reads now).hasShot =
        !(robot.autonomousInit platform reads now).autoInfo.shoot := agrees
    have iff := firesAsDecided_iff platform session first later
    simpa only [autonomousInit, shoot_autoInfo_reloadTrajectory, shooter_reloadTrajectory] using iff
  rw [and_congr_right fires, agrees_reloadTrajectory_iff]
  cases throws : reads.throws with
  | true => simp [and_assoc]
  | false => cases shoot : reads.table.shoot <;> simp [LuaField.getOr]

/-- A table without a `shoot` entry installs a mode that does not shoot, and a
flag that makes the session shoot. -/
theorem not_shotDecisionAgrees_of_missing_shoot :
    ¬ ∀ (platform : Platform Rat Unit Unit) (robot : RobotMain Rat Unit)
        (reads : ModeReads Unit), (robot.reloadTrajectory platform reads).ShotDecisionAgrees := by
  intro always
  have agrees := (always .bench
    (.create .bench .bench 0 (.bench .absent)) (.bench .absent)).1
  exact absurd agrees (by decide)

end RobotMain

end RobotFirmware
