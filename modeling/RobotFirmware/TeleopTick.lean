import RobotFirmware.TeleopProgram

/-!
# One tick of the Teleop program

`update_arms` decides on the lifter and `update_shooter` on the shooter.  The
lemmas below say what a tick does to each of them, whether or not the
controller is connected.
-/

namespace RobotFirmware

namespace TeleopScript

variable {K : Type*}

section Arms

variable (script : TeleopScript) (pad : GamepadReading K)

theorem calls_updateArms :
    (script.updateArms pad).2 =
      if pad.Y then [.moveUp]
      else if pad.A then (if script.hasGoneUp then [.moveDown] else [])
      else [.stopLifter] := by
  unfold updateArms
  split
  · rfl
  · split
    · split <;> rfl
    · rfl

theorem updateArms_cases :
    (script.updateArms pad).2 = [.moveUp] ∨ (script.updateArms pad).2 = [.moveDown] ∨
      (script.updateArms pad).2 = [.stopLifter] ∨ (script.updateArms pad).2 = [] := by
  rw [calls_updateArms]
  split
  · simp
  · split
    · split <;> simp
    · simp

theorem actsOnShooter_updateArms :
    ∀ call ∈ (script.updateArms pad).2, call.actsOnShooter = false := by
  rcases script.updateArms_cases pad with calls | calls | calls | calls <;>
    simp [calls, BindingCall.actsOnShooter]

theorem hasGoneUp_updateArms :
    (script.updateArms pad).1.hasGoneUp = (pad.Y || script.hasGoneUp) := by
  unfold updateArms
  split
  · simp [*]
  · split
    · split <;> simp [*]
    · simp [*]

/-- `update_speed` sets the gear and nothing else. -/
theorem updateSpeed_frame :
    script.updateSpeed pad = { script with lowGear := (script.updateSpeed pad).lowGear } := by
  unfold updateSpeed
  split
  · rfl
  · split <;> rfl

theorem hasGoneUp_updateSpeed : (script.updateSpeed pad).hasGoneUp = script.hasGoneUp := by
  rw [updateSpeed_frame]

end Arms

variable [Field K]

section Frame

variable (script : TeleopScript) (pad : GamepadReading K) (shooter : Shooter K)

theorem updateShooter_updateSpeed :
    (script.updateSpeed pad).updateShooter pad shooter = script.updateShooter pad shooter := by
  rw [updateSpeed_frame]
  rfl

theorem updateShooter_updateArms :
    (script.updateArms pad).1.updateShooter pad shooter = script.updateShooter pad shooter := by
  unfold updateArms
  split
  · rfl
  · split
    · split <;> rfl
    · rfl

end Frame

/-- The call of `update_shooter` for a reading of the gamepad; the variables
that it reads have just been set from the same reading. -/
def shooterCalls (pad : GamepadReading K) (shooter : Shooter K) : List (BindingCall K) :=
  (load.updateGamepadState pad).updateShooter pad shooter

/-- The speed that `teleop_run` passes to `drive`. -/
def driveSpeed (script : TeleopScript) (pad : GamepadReading K) (params : Parameters K) : K :=
  if (script.updateSpeed pad).lowGear then params.getSpeed * 0.25 else params.getSpeed

theorem calls_teleopRun (script : TeleopScript) (pad : GamepadReading K)
    (params : Parameters K) (now : K) (shooter : Shooter K) :
    (script.teleopRun pad params now shooter).2 =
      .drive now (script.driveSpeed pad params) params.getAngularSpeed ::
        (script.updateArms pad).2 ++ shooterCalls pad shooter := by
  have arms : (((script.updateGamepadState pad).updateSpeed pad).updateArms pad).2 =
      (script.updateArms pad).2 := by
    rw [calls_updateArms, calls_updateArms, hasGoneUp_updateSpeed]
    rfl
  have shooting :
      (((script.updateGamepadState pad).updateSpeed pad).updateArms pad).1.updateShooter pad
          shooter =
        shooterCalls pad shooter :=
    (updateShooter_updateArms _ pad shooter).trans (updateShooter_updateSpeed _ pad shooter)
  have gear : ((script.updateGamepadState pad).updateSpeed pad).lowGear =
      (script.updateSpeed pad).lowGear := by
    unfold updateSpeed
    split
    · rfl
    · split <;> rfl
  rw [← arms, ← shooting, driveSpeed, ← gear]
  rfl

theorem hasGoneUp_teleopRun (script : TeleopScript) (pad : GamepadReading K)
    (params : Parameters K) (now : K) (shooter : Shooter K) :
    (script.teleopRun pad params now shooter).1.hasGoneUp = (pad.Y || script.hasGoneUp) := by
  change (((script.updateGamepadState pad).updateSpeed pad).updateArms pad).1.hasGoneUp = _
  rw [hasGoneUp_updateArms, hasGoneUp_updateSpeed]
  rfl

/-- `update_shooter` returns at once during a shot and when the shoot button
goes up. -/
theorem shooterCalls_of_early_return {pad : GamepadReading K} {shooter : Shooter K}
    (early : shooter.state = .shooting ∨ pad.rightBumperReleased = true) :
    shooterCalls pad shooter = [] := by
  rcases early with shooting | released
  · simp [shooterCalls, updateShooter, Shooter.isShooting, shooting]
  · simp [shooterCalls, updateShooter, updateGamepadState, released]

theorem shooterCalls_of_intake {pad : GamepadReading K} {shooter : Shooter K}
    (notShooting : shooter.state ≠ .shooting) (notReleased : pad.rightBumperReleased = false)
    (button : (pad.leftBumperPressed || pad.leftBumper) = true) :
    shooterCalls pad shooter = [.intake] := by
  have noShot : shooter.isShooting = false := by simpa [Shooter.isShooting] using notShooting
  rcases Bool.or_eq_true_iff.mp button with pressed | down
  · simp [shooterCalls, updateShooter, updateGamepadState, noShot, notReleased, pressed]
  · simp [shooterCalls, updateShooter, updateGamepadState, noShot, notReleased, down]

theorem shooterCalls_of_release {pad : GamepadReading K} {shooter : Shooter K}
    (notShooting : shooter.state ≠ .shooting) (notReleased : pad.rightBumperReleased = false)
    (button : (pad.leftBumperPressed || pad.leftBumper) = false)
    (released : pad.leftBumperReleased = true) :
    shooterCalls pad shooter = [.stopShooter] := by
  have noShot : shooter.isShooting = false := by simpa [Shooter.isShooting] using notShooting
  obtain ⟨notPressed, notDown⟩ := Bool.or_eq_false_iff.mp button
  simp [shooterCalls, updateShooter, updateGamepadState, noShot, notReleased, notPressed,
    notDown, released]

theorem shooterCalls_of_loading {pad : GamepadReading K} {shooter : Shooter K}
    (loading : shooter.state = .loading)
    (noButton : (pad.leftBumperPressed || pad.leftBumper) = false)
    (noRelease : pad.leftBumperReleased = false) : shooterCalls pad shooter = [] := by
  obtain ⟨notPressed, notDown⟩ := Bool.or_eq_false_iff.mp noButton
  simp [shooterCalls, updateShooter, updateGamepadState, Shooter.isShooting, Shooter.isLoading,
    loading, notPressed, notDown, noRelease]

/-- Without the intake button an idle shooter may be told to shoot. -/
theorem shooterCalls_of_idle {pad : GamepadReading K} {shooter : Shooter K}
    (idle : shooter.state = .idle)
    (noButton : (pad.leftBumperPressed || pad.leftBumper) = false)
    (noRelease : pad.leftBumperReleased = false) :
    shooterCalls pad shooter = [] ∨ ∃ level, shooterCalls pad shooter = [.shoot level] := by
  obtain ⟨notPressed, notDown⟩ := Bool.or_eq_false_iff.mp noButton
  simp only [shooterCalls, updateShooter, updateGamepadState, Shooter.isShooting,
    Shooter.isLoading, idle, notPressed, notDown, noRelease]
  simp only [reduceCtorEq, beq_iff_eq, Bool.or_self, Bool.false_eq_true, ↓reduceIte]
  split
  · exact .inl rfl
  · split
    · exact .inr ⟨_, rfl⟩
    · split
      · exact .inr ⟨_, rfl⟩
      · split
        · exact .inr ⟨_, rfl⟩
        · split
          · exact .inr ⟨_, rfl⟩
          · split
            · exact .inr ⟨_, rfl⟩
            · exact .inl rfl

theorem shooterCalls_cases (pad : GamepadReading K) (shooter : Shooter K) :
    shooterCalls pad shooter = [] ∨ shooterCalls pad shooter = [.intake] ∨
      shooterCalls pad shooter = [.stopShooter] ∨
        ∃ level, shooterCalls pad shooter = [.shoot level] ∧ shooter.state = .idle := by
  by_cases early : shooter.state = .shooting ∨ pad.rightBumperReleased = true
  · exact .inl (shooterCalls_of_early_return early)
  obtain ⟨notShooting, notReleased⟩ := not_or.mp early
  rw [Bool.not_eq_true] at notReleased
  cases button : pad.leftBumperPressed || pad.leftBumper with
  | true => exact .inr (.inl (shooterCalls_of_intake notShooting notReleased button))
  | false =>
      cases released : pad.leftBumperReleased with
      | true =>
          exact .inr (.inr (.inl
            (shooterCalls_of_release notShooting notReleased button released)))
      | false =>
          cases state : shooter.state with
          | shooting => exact absurd state notShooting
          | loading => exact .inl (shooterCalls_of_loading state button released)
          | idle =>
              rcases shooterCalls_of_idle state button released with quiet | ⟨level, shot⟩
              · exact .inl quiet
              · exact .inr (.inr (.inr ⟨level, shot, rfl⟩))

end TeleopScript

namespace TeleopSession

open TeleopScript

variable {K τ π : Type*} [Field K]

/-- The calls of `update_shooter` in a tick. -/
def shooterCalls (session : TeleopSession K τ) (input : TeleopInput K) :
    List (BindingCall K) :=
  if input.pad.connected then
    TeleopScript.shooterCalls input.pad session.robot.shooter
  else
    []

theorem shooterCalls_of_shooting {session : TeleopSession K τ} (input : TeleopInput K)
    (shooting : session.robot.shooter.state = .shooting) : session.shooterCalls input = [] := by
  simp [shooterCalls, shooterCalls_of_early_return (.inl shooting)]

variable [LinearOrder K]

/-- The speed that a tick with the controller passes to `drive`. -/
def driveSpeed (session : TeleopSession K τ) (input : TeleopInput K) : K :=
  session.script.driveSpeed input.pad (session.robot.processedParams input.pad)

/-- The rotation that a tick with the controller passes to `drive`. -/
def driveRotation (session : TeleopSession K τ) (input : TeleopInput K) : K :=
  (session.robot.processedParams input.pad).getAngularSpeed

theorem calls_respond_of_connected (session : TeleopSession K τ) {input : TeleopInput K}
    (connected : input.pad.connected = true) :
    (session.respond input).2 =
      .drive input.now (session.driveSpeed input) (session.driveRotation input) ::
        (session.script.updateArms input.pad).2 ++ session.shooterCalls input := by
  have calls := calls_teleopRun session.script input.pad
    (session.robot.processedParams input.pad) input.now session.robot.shooter
  simpa [respond, shooterCalls, driveSpeed, driveRotation, connected] using calls

theorem respond_of_connected (session : TeleopSession K τ) {input : TeleopInput K}
    (connected : input.pad.connected = true) :
    ∃ speed rot, (session.respond input).2 =
      .drive input.now speed rot :: (session.script.updateArms input.pad).2 ++
        session.shooterCalls input :=
  ⟨_, _, session.calls_respond_of_connected connected⟩

theorem actsOnShooter_respond_of_shooting {session : TeleopSession K τ}
    (input : TeleopInput K) (shooting : session.robot.shooter.state = .shooting) :
    ∀ call ∈ (session.respond input).2, call.actsOnShooter = false := by
  cases connected : input.pad.connected with
  | false => simp [respond, connected]
  | true =>
      obtain ⟨speed, rot, calls⟩ := session.respond_of_connected connected
      rw [calls, shooterCalls_of_shooting input shooting, List.append_nil]
      intro call member
      rcases List.mem_cons.mp member with rfl | arms
      · rfl
      · exact actsOnShooter_updateArms session.script input.pad call arms

variable [FloorRing K]

theorem shooter_performAll_arms (actuators : Actuators K) (script : TeleopScript)
    (pad : GamepadReading K) (now speed rot : K) :
    (actuators.performAll (.drive now speed rot :: (script.updateArms pad).2)).shooter =
      actuators.shooter := by
  rcases script.updateArms_cases pad with calls | calls | calls | calls <;>
    rw [calls] <;> rfl

theorem lifter_performAll_shooterCalls (actuators : Actuators K) (pad : GamepadReading K)
    (shooter : Shooter K) :
    (actuators.performAll (TeleopScript.shooterCalls pad shooter)).lifter =
      actuators.lifter := by
  rcases shooterCalls_cases pad shooter with calls | calls | calls | ⟨level, calls, -⟩ <;>
    rw [calls] <;> rfl

theorem drivetrain_performAll_arms (actuators : Actuators K) (script : TeleopScript)
    (pad : GamepadReading K) :
    (actuators.performAll (script.updateArms pad).2).drivetrain = actuators.drivetrain := by
  rcases script.updateArms_cases pad with calls | calls | calls | calls <;>
    rw [calls] <;> rfl

theorem drivetrain_performAll_shooterCalls (actuators : Actuators K) (pad : GamepadReading K)
    (shooter : Shooter K) :
    (actuators.performAll (TeleopScript.shooterCalls pad shooter)).drivetrain =
      actuators.drivetrain := by
  rcases shooterCalls_cases pad shooter with calls | calls | calls | ⟨level, calls, -⟩ <;>
    rw [calls] <;> rfl

theorem shooter_tick (platform : Platform K τ π) (session : TeleopSession K τ)
    (input : TeleopInput K) :
    (session.tick platform input).robot.shooter =
      (session.robot.toActuators.performAll (session.shooterCalls input)).shooter.process := by
  obtain ⟨-, -, -, shooterEq⟩ := session.tick_spec platform input
  rw [shooterEq]
  congr 1
  cases connected : input.pad.connected with
  | true =>
      obtain ⟨speed, rot, calls⟩ := session.respond_of_connected connected
      rw [calls, Actuators.performAll_append]
      exact Actuators.shooter_performAll_congr (shooter_performAll_arms _ _ _ _ _ _) _
  | false => simp [respond, shooterCalls, connected]

theorem drivetrain_tick_of_connected (platform : Platform K τ π) (session : TeleopSession K τ)
    {input : TeleopInput K} (connected : input.pad.connected = true) :
    (session.tick platform input).robot.drivetrain =
      session.robot.drivetrain.driveNormalized input.now (session.driveSpeed input)
        (session.driveRotation input) := by
  obtain ⟨returned, -⟩ := session.tick_spec platform input
  obtain ⟨history, performed⟩ := RobotMain.luaPeriodic_of_connected platform session.runs connected
    (session.respond input).2
  rw [performed] at returned
  rw [← Except.ok.inj returned, session.calls_respond_of_connected connected,
    Actuators.performAll_append, shooterCalls, if_pos connected]
  dsimp only
  rw [drivetrain_performAll_shooterCalls, Actuators.performAll_cons, drivetrain_performAll_arms]
  rfl

/-- Without the controller a tick stops the drivetrain; the limiters are not
asked. -/
theorem drivetrain_tick_of_disconnected (platform : Platform K τ π)
    (session : TeleopSession K τ) {input : TeleopInput K}
    (disconnected : input.pad.connected = false) :
    (session.tick platform input).robot.drivetrain = session.robot.drivetrain.drive 0 0 := by
  obtain ⟨returned, -⟩ := session.tick_spec platform input
  rw [RobotMain.luaPeriodic_of_losesControl platform (.inl disconnected)] at returned
  rw [← Except.ok.inj returned]

theorem lifter_tick_of_disconnected (platform : Platform K τ π) (session : TeleopSession K τ)
    {input : TeleopInput K} (disconnected : input.pad.connected = false) :
    (session.tick platform input).robot.lifter = session.robot.lifter := by
  obtain ⟨-, -, lifterEq, -⟩ := session.tick_spec platform input
  rw [lifterEq]
  simp [respond, disconnected]

theorem lifter_tick_of_connected (platform : Platform K τ π) (session : TeleopSession K τ)
    {input : TeleopInput K} (connected : input.pad.connected = true) :
    (session.tick platform input).robot.lifter =
      if input.pad.Y then .setVoltage (0.3 * 12.0)
      else if input.pad.A then
        (if session.script.hasGoneUp then .setVoltage (0.3 * -12.0)
        else session.robot.lifter)
      else .setVoltage 0 := by
  obtain ⟨-, -, lifterEq, -⟩ := session.tick_spec platform input
  obtain ⟨speed, rot, calls⟩ := session.respond_of_connected connected
  rw [lifterEq, calls, Actuators.performAll_append, shooterCalls, if_pos connected,
    lifter_performAll_shooterCalls, calls_updateArms]
  split
  · rfl
  · split
    · split <;> rfl
    · rfl

theorem hasGoneUp_tick (platform : Platform K τ π) (session : TeleopSession K τ)
    (input : TeleopInput K) :
    (session.tick platform input).script.hasGoneUp =
      (input.pad.connected && input.pad.Y || session.script.hasGoneUp) := by
  obtain ⟨-, scriptEq, -, -⟩ := session.tick_spec platform input
  rw [scriptEq]
  cases connected : input.pad.connected with
  | true => simp [respond, connected, hasGoneUp_teleopRun]
  | false => simp [respond, connected]

end TeleopSession

end RobotFirmware
