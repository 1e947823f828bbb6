import RobotFirmware.TeleopTick

/-!
# Shots of the Teleop program

`update_shooter` calls `shoot` only on an idle shooter and calls nothing while
a shot is running, so from the call on the shooter is only processed.  Its own
counter then decides how long the shot lasts.
-/

namespace RobotFirmware

namespace Shooter

variable {K : Type*} [Field K] [LinearOrder K]

/-- The shooter has served a number of ticks of a shot that it began as `shot`. -/
structure Serves (shot : Shooter K) (served : Nat) (shooter : Shooter K) : Prop where
  state_eq : shooter.state = if (served : Int) = shot.tick then .idle else .shooting
  tick_eq : shooter.tick = shot.tick - served
  level_eq : shooter.shootLevel = shot.shootLevel
  power_eq : shooter.shootPower = shot.shootPower
  primary_eq : served ≠ 0 →
    shooter.motors.primaryTop = shot.shootVolts ∧ shooter.motors.primaryBottom = shot.shootVolts

theorem Serves.process {shot shooter : Shooter K} {served : Nat}
    (serves : Serves shot served shooter) (remains : (served : Int) < shot.tick) :
    Serves shot (served + 1) shooter.process := by
  have shooting : shooter.state = .shooting := by
    rw [serves.state_eq, if_neg (by omega)]
  have voltsEq : shooter.shootVolts = shot.shootVolts := by
    simp only [shootVolts, level, serves.level_eq, serves.power_eq]
  have tickEq := serves.tick_eq
  have ends : shooter.tick - 1 ≤ 0 ↔ ((served + 1 : Nat) : Int) = shot.tick := by omega
  rw [process_shooting shooting]
  refine ⟨by simp only [ends], ?_, serves.level_eq, serves.power_eq, fun _ => ?_⟩
  · dsimp only
    omega
  · simp only [shotMotors, voltsEq]
    split <;> simp [ShooterMotors.pair]

theorem serves_shoot {shooter : Shooter K} (idle : shooter.state = .idle)
    (period : 1 ≤ shooter.periodMs) :
    1 ≤ shooter.shoot.tick ∧ Serves shooter.shoot 0 shooter.shoot := by
  have positive : 1 ≤ shooter.shoot.tick := by
    simp only [shoot, idle, ne_eq, not_true_eq_false, ↓reduceIte]
    exact period.trans (le_max_left _ _)
  refine ⟨positive, ?_, by simp, rfl, rfl, by simp⟩
  rw [if_neg (by omega)]
  simp [shoot, idle]

end Shooter

namespace TeleopSession

open Runs TeleopScript Shooter

variable {K τ π : Type*} [Field K] [LinearOrder K] [FloorRing K]

theorem periodMs_tick (platform : Platform K τ π) (session : TeleopSession K τ)
    (input : TeleopInput K) :
    (session.tick platform input).robot.shooter.periodMs = session.robot.shooter.periodMs := by
  have processed (shooter : Shooter K) : shooter.process.periodMs = shooter.periodMs := by
    obtain ⟨_, _, _, _, _, processed⟩ := shooter.process_frame
    rw [processed]
  rw [shooter_tick, processed, shooterCalls]
  split
  · rcases shooterCalls_cases input.pad session.robot.shooter with
        calls | calls | calls | ⟨level, calls, -⟩ <;>
      rw [calls]
    · rfl
    · simp only [Actuators.performAll_cons, Actuators.performAll_nil, Actuators.perform, intake]
      split <;> rfl
    · rfl
    · simp only [Actuators.performAll_cons, Actuators.performAll_nil, Actuators.perform, shoot]
      split <;> rfl
  · rfl

theorem periodMs_foldl_tick (platform : Platform K τ π) (robot : RobotMain K τ)
    (config : Config K) (inputs : List (TeleopInput K)) :
    (inputs.foldl (tick platform) (begin robot config)).robot.shooter.periodMs =
      config.integer "engine" "period" 0 := by
  obtain ⟨-, -, -, shooterEq⟩ := begin_spec robot config
  refine (invariant_of_steps (tick platform)
    (fun session => session.robot.shooter.periodMs = config.integer "engine" "period" 0)
    (fun _ _ => True) ?_ ?_ (fun _ _ => trivial)).1
  · intro session input periodEq _
    rw [periodMs_tick, periodEq]
  · simp [shooterEq, reset]

/-- While a shot has ticks left, the ticks of the session serve it, whatever
their inputs are. -/
theorem serves_foldl_tick (platform : Platform K τ π) {session : TeleopSession K τ}
    {shot : Shooter K} {served : Nat} (serves : Serves shot served session.robot.shooter)
    (later : List (TeleopInput K)) (within : ((served + later.length : Nat) : Int) ≤ shot.tick) :
    Serves shot (served + later.length) (later.foldl (tick platform) session).robot.shooter := by
  induction later generalizing session served with
  | nil => exact serves
  | cons input rest ih =>
      rw [List.length_cons] at within ⊢
      have remains : (served : Int) < shot.tick := by omega
      have shooting : session.robot.shooter.state = .shooting := by
        rw [serves.state_eq, if_neg (by omega)]
      have next : Serves shot (served + 1) (session.tick platform input).robot.shooter := by
        rw [shooter_tick, shooterCalls_of_shooting input shooting]
        exact serves.process remains
      rw [show served + (rest.length + 1) = served + 1 + rest.length by omega] at within ⊢
      exact ih next within

theorem shoot_mem_steps_respond {session : TeleopSession K τ} {input : TeleopInput K}
    {before : Actuators K} {level : K}
    (member : (before, .shoot level) ∈
      steps Actuators.perform session.robot.toActuators (session.respond input).2) :
    session.shooterCalls input = [.shoot level] ∧ session.robot.shooter.state = .idle ∧
      before.shooter = session.robot.shooter := by
  cases connected : input.pad.connected with
  | false => simp [respond, connected] at member
  | true =>
      obtain ⟨speed, rot, calls⟩ := session.respond_of_connected connected
      rw [calls, steps_append] at member
      rcases List.mem_append.mp member with early | last
      · obtain ⟨first, second, split, -⟩ := mem_steps_iff.mp early
        have among : BindingCall.shoot level ∈ .drive input.now speed rot ::
            (session.script.updateArms input.pad).2 := by simp [split]
        rcases List.mem_cons.mp among with driving | arms
        · cases driving
        · have leftAlone := actsOnShooter_updateArms session.script input.pad _ arms
          cases leftAlone
      · have frame := shooter_performAll_arms session.robot.toActuators session.script input.pad
          input.now speed rot
        rw [shooterCalls, if_pos connected] at last ⊢
        rcases shooterCalls_cases input.pad session.robot.shooter with
            cases | cases | cases | ⟨amount, cases, idle⟩ <;>
          rw [cases] at last ⊢ <;> simp at last
        obtain ⟨rfl, rfl⟩ := last
        exact ⟨rfl, idle, frame⟩

/-- From the call that starts it, a shot runs for the ticks that the call
computed, at one level and one voltage, and the program leaves it alone. -/
structure ShotRunsOut (platform : Platform K τ π) (session : TeleopSession K τ)
    (input : TeleopInput K) (level : K) (shot : Shooter K) : Prop where
  started : shot.state = .shooting ∧ shot.shootLevel = level ∧ 1 ≤ shot.tick
  served : ∀ later : List (TeleopInput K), (later.length : Int) < shot.tick →
    let shooter := (later.foldl (tick platform) (session.tick platform input)).robot.shooter
    shooter.state = (if (later.length : Int) + 1 = shot.tick then .idle else .shooting) ∧
      shooter.shootLevel = level ∧ shooter.motors.primaryTop = shot.shootVolts ∧
        shooter.motors.primaryBottom = shot.shootVolts
  leftAlone : ∀ later : List (TeleopInput K), (later.length : Int) + 1 < shot.tick →
    ∀ next, ∀ call ∈
      ((later.foldl (tick platform) (session.tick platform input)).respond next).2,
      call.actsOnShooter = false

/-- **Shots are atomic.** In every tick of every session, `teleop.bot` calls
`shoot` only on an idle shooter, and the shot then runs out by itself. -/
theorem shots_are_atomic (platform : Platform K τ π) (robot : RobotMain K τ) (config : Config K)
    (period : 1 ≤ config.integer "engine" "period" 0) (earlier : List (TeleopInput K))
    (input : TeleopInput K) :
    let session := earlier.foldl (tick platform) (begin robot config)
    ∀ before level, (before, .shoot level) ∈
        steps Actuators.perform session.robot.toActuators (session.respond input).2 →
      before.shooter.state = .idle ∧
        ShotRunsOut platform session input level
          (before.perform (.shoot level)).shooter := by
  intro session before level member
  obtain ⟨calls, idle, frame⟩ := shoot_mem_steps_respond member
  have idleBefore : before.shooter.state = .idle := by rw [frame, idle]
  have periodBefore : 1 ≤ before.shooter.periodMs := by
    rwa [frame, periodMs_foldl_tick platform robot config earlier]
  obtain ⟨positive, start⟩ : 1 ≤ (before.perform (.shoot level)).shooter.tick ∧
      Serves (before.perform (.shoot level)).shooter 0 (before.perform (.shoot level)).shooter :=
    serves_shoot idleBefore periodBefore
  -- The tick of the call serves the shot for the first time.
  have first : Serves (before.perform (.shoot level)).shooter 1
      (session.tick platform input).robot.shooter := by
    rw [shooter_tick, calls]
    have shotEq : (session.robot.toActuators.performAll [.shoot level]).shooter =
        (before.perform (.shoot level)).shooter :=
      Actuators.shooter_performAll_congr frame.symm [.shoot level]
    rw [shotEq]
    exact start.process (by omega)
  have levelEq : (before.perform (.shoot level)).shooter.shootLevel = level := by
    simp [Actuators.perform, shoot, setShootLevel, idleBefore]
  have shooting : (before.perform (.shoot level)).shooter.state = .shooting := by
    simp [Actuators.perform, shoot, setShootLevel, idleBefore]
  refine ⟨idleBefore, ⟨shooting, levelEq, positive⟩, ?_, ?_⟩
  · intro later within
    have serves := serves_foldl_tick platform first later (by omega)
    obtain ⟨top, bottom⟩ := serves.primary_eq (by omega)
    refine ⟨?_, serves.level_eq.trans levelEq, top, bottom⟩
    rw [serves.state_eq]
    congr 1
    exact propext (by omega)
  · intro later within next
    have serves := serves_foldl_tick platform first later (by omega)
    apply actsOnShooter_respond_of_shooting
    rw [serves.state_eq, if_neg (by omega)]

/-- The right bumper, pressed in the first tick of a session, is such a call. -/
theorem shots_are_atomic_first_tick :
    let session := begin (.create .bench .bench 0 (.bench (.boolean true))) .bench
    let input := TeleopInput.bench ⟨false, false⟩ ⟨false, true⟩
    ∃ before : Actuators Rat, before.shooter.state = .idle ∧
      ShotRunsOut .bench session input 1 (before.perform (.shoot 1)).shooter :=
  ⟨_, shots_are_atomic .bench _ .bench (by decide +kernel) [] (.bench ⟨false, false⟩ ⟨false, true⟩)
    _ 1 (.tail _ (.tail _ (.head _)))⟩

end TeleopSession

end RobotFirmware
