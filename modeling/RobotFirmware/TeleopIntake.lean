import RobotFirmware.TeleopTick

/-!
# The intake button

The left bumper runs the intake.  `update_shooter` returns early while the
right bumper goes up, and then a release of the left bumper in the same tick
is lost.  This file shows that nothing else keeps the intake running: a
session loads only while the button is held exactly when it has no tick that
loses the release of a running intake.
-/

namespace RobotFirmware

namespace GamepadReading

variable {K : Type*}

def bumpers (pad : GamepadReading K) : BumperLevels :=
  ⟨pad.leftBumper, pad.rightBumper⟩

/-- The flags of the bumpers are the edges of their levels. -/
structure FlagsAreEdges (previous : BumperLevels) (pad : GamepadReading K) : Prop where
  leftPressed : pad.leftBumperPressed = (!previous.left && pad.leftBumper)
  leftReleased : pad.leftBumperReleased = (previous.left && !pad.leftBumper)
  rightPressed : pad.rightBumperPressed = (!previous.right && pad.rightBumper)
  rightReleased : pad.rightBumperReleased = (previous.right && !pad.rightBumper)

end GamepadReading

namespace TeleopSession

open Runs TeleopScript

variable {K τ π : Type*}

/-- The readings of a session are connected, with flags that compare each tick
with the one before. -/
def SampledFrom : BumperLevels → List (TeleopInput K) → Prop
  | _, [] => True
  | previous, input :: rest =>
      input.pad.connected = true ∧ input.pad.FlagsAreEdges previous ∧
        SampledFrom input.pad.bumpers rest

/-- If the tick ends in `Loading`, the left bumper is held. -/
def LoadsOnlyWhileHeld (outcome : TeleopInput K × TeleopSession K τ) : Prop :=
  outcome.2.robot.shooter.state = .loading → outcome.1.pad.leftBumper = true

/-- Both bumpers go up in the tick while the intake is running. -/
def LosesRelease (taken : TeleopSession K τ × TeleopInput K) : Prop :=
  taken.1.robot.shooter.state = .loading ∧ taken.2.pad.leftBumperReleased = true ∧
    taken.2.pad.rightBumperReleased = true

variable [Field K] [LinearOrder K] [FloorRing K]

theorem tick_state_eq_loading_iff (platform : Platform K τ π) (session : TeleopSession K τ)
    (input : TeleopInput K) :
    (session.tick platform input).robot.shooter.state = .loading ↔
      (session.robot.toActuators.performAll (session.shooterCalls input)).shooter.state =
        .loading := by
  rw [shooter_tick, Shooter.process_state_eq_loading_iff]

theorem tick_loading_of_losesRelease (platform : Platform K τ π)
    {session : TeleopSession K τ} {input : TeleopInput K}
    (loses : LosesRelease (session, input)) :
    (session.tick platform input).robot.shooter.state = .loading := by
  obtain ⟨loading, -, released⟩ := loses
  rw [tick_state_eq_loading_iff, shooterCalls]
  split
  · rw [shooterCalls_of_early_return (.inr released)]
    exact loading
  · exact loading

/-- While the intake button is up, the intake runs on only if the tick loses
the release. -/
theorem losesRelease_of_tick_loading (platform : Platform K τ π) {session : TeleopSession K τ}
    {input : TeleopInput K} {previous : BumperLevels} (connected : input.pad.connected = true)
    (edges : input.pad.FlagsAreEdges previous)
    (held : session.robot.shooter.state = .loading → previous.left = true)
    (up : input.pad.leftBumper = false)
    (loading : (session.tick platform input).robot.shooter.state = .loading) :
    LosesRelease (session, input) := by
  have button : (input.pad.leftBumperPressed || input.pad.leftBumper) = false := by
    simp [edges.leftPressed, up]
  rw [tick_state_eq_loading_iff, shooterCalls, if_pos connected] at loading
  by_cases early :
      session.robot.shooter.state = .shooting ∨ input.pad.rightBumperReleased = true
  · rw [shooterCalls_of_early_return early] at loading
    have wasHeld : previous.left = true := held loading
    rcases early with shooting | released
    · exact absurd (shooting.symm.trans loading) (by simp)
    · exact ⟨loading, by simp [edges.leftReleased, wasHeld, up], released⟩
  obtain ⟨notShooting, notReleased⟩ := not_or.mp early
  rw [Bool.not_eq_true] at notReleased
  cases released : input.pad.leftBumperReleased with
  | true =>
      -- The release stops the shooter.
      rw [shooterCalls_of_release notShooting notReleased button released] at loading
      simp [Actuators.perform, Shooter.stop] at loading
  | false =>
      cases state : session.robot.shooter.state with
      | shooting => exact absurd state notShooting
      | loading =>
          -- The button was held and is up, so it has been released.
          simp [edges.leftReleased, held state, up] at released
      | idle =>
          rcases shooterCalls_of_idle state button released with quiet | ⟨level, shot⟩
          · rw [quiet] at loading
            simp [state] at loading
          · rw [shot] at loading
            simp [Actuators.perform, Shooter.shoot, Shooter.setShootLevel, state] at loading

theorem loadsOnlyWhileHeld_tick_iff (platform : Platform K τ π) {session : TeleopSession K τ}
    {input : TeleopInput K} {previous : BumperLevels} (connected : input.pad.connected = true)
    (edges : input.pad.FlagsAreEdges previous)
    (held : session.robot.shooter.state = .loading → previous.left = true) :
    LoadsOnlyWhileHeld (input, session.tick platform input) ↔ ¬ LosesRelease (session, input) := by
  constructor
  · intro whileHeld loses
    have down := whileHeld (tick_loading_of_losesRelease platform loses)
    have released := loses.2.1
    simp [edges.leftReleased, down] at released
  · intro keeps loading
    by_contra up
    exact keeps (losesRelease_of_tick_loading platform connected edges held
      (Bool.not_eq_true _ ▸ up) loading)

/-- The ticks of a session load only while the button is held exactly when no
tick loses a release, if that is so when the session starts. -/
theorem loadsOnlyWhileHeld_iff (platform : Platform K τ π) (session : TeleopSession K τ)
    {previous : BumperLevels} {inputs : List (TeleopInput K)}
    (sampled : SampledFrom previous inputs)
    (held : session.robot.shooter.state = .loading → previous.left = true) :
    (∀ outcome ∈ outcomes (tick platform) session inputs, LoadsOnlyWhileHeld outcome) ↔
      ∀ taken ∈ steps (tick platform) session inputs, ¬ LosesRelease taken := by
  induction inputs generalizing session previous with
  | nil => simp
  | cons input rest ih =>
      obtain ⟨connected, edges, sampled⟩ := sampled
      have first := loadsOnlyWhileHeld_tick_iff platform connected edges held
      rw [outcomes_cons, steps_cons, List.forall_mem_cons, List.forall_mem_cons]
      constructor
      · rintro ⟨here, later⟩
        exact ⟨first.mp here, (ih (session.tick platform input) sampled here).mp later⟩
      · rintro ⟨here, later⟩
        have whileHeld := first.mpr here
        exact ⟨whileHeld, (ih (session.tick platform input) sampled whileHeld).mpr later⟩

/-- **The intake follows its button.** In a session with the controller
connected, every tick that ends in `Loading` has the left bumper held if and
only if no tick on which both bumpers go up finds the shooter `Loading`. -/
theorem intake_follows_button_iff (platform : Platform K τ π) (robot : RobotMain K τ)
    (config : Config K) (previous : BumperLevels) (inputs : List (TeleopInput K))
    (sampled : SampledFrom previous inputs) :
    (∀ outcome ∈ outcomes (tick platform) (begin robot config) inputs,
        LoadsOnlyWhileHeld outcome) ↔
      ∀ taken ∈ steps (tick platform) (begin robot config) inputs, ¬ LosesRelease taken := by
  apply loadsOnlyWhileHeld_iff platform (begin robot config) sampled
  obtain ⟨-, -, -, shooterEq⟩ := begin_spec robot config
  simp [shooterEq, Shooter.reset]

/-- Both bumpers pressed in one tick and released in the next leave the intake
running. -/
theorem intake_runs_on_after_both_released :
    ¬ ∀ (platform : Platform Rat Unit Unit) (robot : RobotMain Rat Unit) (config : Config Rat)
        (previous : BumperLevels) (inputs : List (TeleopInput Rat)),
        SampledFrom previous inputs →
          ∀ outcome ∈ outcomes (tick platform) (begin robot config) inputs,
            LoadsOnlyWhileHeld outcome := by
  intro always
  have whileHeld := always .bench (.create .bench .bench 0 (.bench (.boolean true))) .bench
    ⟨false, false⟩
    [.bench ⟨false, false⟩ ⟨true, true⟩, .bench ⟨true, true⟩ ⟨false, false⟩]
    ⟨rfl, ⟨rfl, rfl, rfl, rfl⟩, rfl, ⟨rfl, rfl, rfl, rfl⟩, trivial⟩
    _ (.tail _ (.head _)) (by decide +kernel)
  exact absurd whileHeld (by decide +kernel)

/-- A press and a release of the left bumper alone are sampled in this way. -/
theorem intake_follows_button_iff_single_press :
    (∀ outcome ∈ outcomes (tick Platform.bench)
        (begin (.create .bench .bench 0 (.bench (.boolean true))) .bench)
        [.bench ⟨false, false⟩ ⟨true, false⟩, .bench ⟨true, false⟩ ⟨false, false⟩],
        LoadsOnlyWhileHeld outcome) ↔
      ∀ taken ∈ steps (tick Platform.bench)
        (begin (.create .bench .bench 0 (.bench (.boolean true))) .bench)
        [.bench ⟨false, false⟩ ⟨true, false⟩, .bench ⟨true, false⟩ ⟨false, false⟩],
        ¬ LosesRelease taken :=
  intake_follows_button_iff .bench (.create .bench .bench 0 (.bench (.boolean true))) .bench
    ⟨false, false⟩ _
    ⟨rfl, ⟨rfl, rfl, rfl, rfl⟩, rfl, ⟨rfl, rfl, rfl, rfl⟩, trivial⟩

end TeleopSession

end RobotFirmware
