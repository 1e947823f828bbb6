import RobotFirmware.TeleopTick

/-!
# The lifter buttons

Button Y raises the arms, and button A lowers them once they have been raised
in the same session.  `update_arms` commands nothing when A is held before
that, so the arms go on as the session before left them.  This file shows that
the first tick of a session with a controller decides whether this ever
happens.
-/

namespace RobotFirmware

/-- A Teleop session from its `Init` to its `Exit`, by what it reads. -/
structure TeleopRecord (K : Type*) where
  config : Config K
  inputs : List (TeleopInput K)

namespace TeleopSession

open Runs TeleopScript

variable {K τ π : Type*}

/-- Button Y is held in a tick with the controller. -/
def raises (input : TeleopInput K) : Bool :=
  input.pad.connected && input.pad.Y

variable [Field K]

/-- The voltage that the buttons ask for: 3.6 V up, or down if Y has been held
in the session before. -/
def armVolts (wasRaised : Bool) (pad : GamepadReading K) : K :=
  if pad.Y then 3.6 else if pad.A && wasRaised then -3.6 else 0

/-- `update_arms` commands nothing while the arms are running. -/
def SilentOnRunningArm (session : TeleopSession K τ) (pad : GamepadReading K) : Prop :=
  session.script.hasGoneUp = false ∧ session.robot.lifter ≠ .setVoltage 0 ∧
    pad.A = true ∧ pad.Y = false

/-- The next tick with a controller is silent on a running arm. -/
def NextIsSilent (session : TeleopSession K τ) (inputs : List (TeleopInput K)) : Prop :=
  ∃ first ∈ inputs.find? (fun input => input.pad.connected), session.SilentOnRunningArm first.pad

variable [LinearOrder K] [FloorRing K]

theorem up_eq : (0.3 * 12.0 : K) = 3.6 := by
  norm_num

/-- In a tick with the controller the lifter gets the voltage of the buttons. -/
def LifterFollows (platform : Platform K τ π) (wasRaised : Bool) (session : TeleopSession K τ)
    (input : TeleopInput K) : Prop :=
  input.pad.connected = true →
    (session.tick platform input).robot.lifter = .setVoltage (armVolts wasRaised input.pad)

theorem lifterFollows_iff (platform : Platform K τ π) (session : TeleopSession K τ)
    {input : TeleopInput K} (connected : input.pad.connected = true) :
    LifterFollows platform session.script.hasGoneUp session input ↔
      ¬ session.SilentOnRunningArm input.pad := by
  rw [LifterFollows, lifter_tick_of_connected platform session connected]
  cases up : input.pad.Y with
  | true => simp [connected, armVolts, SilentOnRunningArm, up, up_eq]
  | false =>
      cases down : input.pad.A with
      | false => simp [connected, armVolts, SilentOnRunningArm, up, down]
      | true =>
          cases gone : session.script.hasGoneUp with
          | true => simp [connected, armVolts, SilentOnRunningArm, up, down, gone, up_eq]
          | false => simp [connected, armVolts, SilentOnRunningArm, up, down, gone]

theorem rests_of_lifterFollows (platform : Platform K τ π) {session : TeleopSession K τ}
    {input : TeleopInput K} (connected : input.pad.connected = true)
    (follows : LifterFollows platform session.script.hasGoneUp session input)
    (inputs : List (TeleopInput K)) : ¬ (session.tick platform input).NextIsSilent inputs := by
  rintro ⟨first, -, low, running, -, -⟩
  rw [hasGoneUp_tick, connected, Bool.true_and, Bool.or_eq_false_iff] at low
  obtain ⟨notUp, notGone⟩ := low
  rw [follows connected] at running
  simp [armVolts, notUp, notGone] at running

theorem nextIsSilent_tick_of_disconnected (platform : Platform K τ π)
    (session : TeleopSession K τ) {input : TeleopInput K}
    (disconnected : input.pad.connected = false) (inputs : List (TeleopInput K)) :
    (session.tick platform input).NextIsSilent inputs ↔ session.NextIsSilent inputs := by
  have goneUp := hasGoneUp_tick platform session input
  have lifter := lifter_tick_of_disconnected platform session disconnected
  simp only [disconnected, Bool.false_and, Bool.false_or] at goneUp
  simp only [NextIsSilent, SilentOnRunningArm, goneUp, lifter]

/-- All ticks of a session follow the buttons exactly when the first one with a
controller is not silent on a running arm. -/
theorem lifterFollows_steps_iff (platform : Platform K τ π) (session : TeleopSession K τ)
    (inputs : List (TeleopInput K)) :
    (∀ taken ∈ steps (tick platform) session inputs,
        LifterFollows platform taken.1.script.hasGoneUp taken.1 taken.2) ↔
      ¬ session.NextIsSilent inputs := by
  induction inputs generalizing session with
  | nil => simp [NextIsSilent]
  | cons input rest ih =>
      have later := ih (session.tick platform input)
      rw [steps_cons, List.forall_mem_cons, later]
      cases connected : input.pad.connected with
      | false =>
          have vacuous : LifterFollows platform session.script.hasGoneUp session input := by
            simp [LifterFollows, connected]
          rw [nextIsSilent_tick_of_disconnected platform session connected]
          simp [vacuous, NextIsSilent, connected]
      | true =>
          have here := lifterFollows_iff platform session connected
          have first : session.NextIsSilent (input :: rest) ↔
              session.SilentOnRunningArm input.pad := by
            simp [NextIsSilent, connected]
          rw [first, ← here]
          constructor
          · exact And.left
          · exact fun follows =>
              ⟨follows, rests_of_lifterFollows platform connected follows rest⟩

theorem hasGoneUp_foldl_tick (platform : Platform K τ π) (session : TeleopSession K τ)
    (inputs : List (TeleopInput K)) :
    (inputs.foldl (tick platform) session).script.hasGoneUp =
      (inputs.any raises || session.script.hasGoneUp) := by
  induction inputs generalizing session with
  | nil => rfl
  | cons input rest ih =>
      rw [List.foldl_cons, ih, hasGoneUp_tick, List.any_cons, raises]
      cases input.pad.connected && input.pad.Y <;> simp

/-- Run a session to its end. -/
def runRecord (platform : Platform K τ π) (robot : RobotMain K τ) (record : TeleopRecord K) :
    RobotMain K τ :=
  (record.inputs.foldl (tick platform) (begin robot record.config)).finish

/-- Every tick of the session with a controller ends with the voltage that the
buttons of the session ask for. -/
def FollowsButtons (platform : Platform K τ π) (robot : RobotMain K τ)
    (record : TeleopRecord K) : Prop :=
  ∀ earlier input later, record.inputs = earlier ++ input :: later →
    LifterFollows platform (earlier.any raises)
      (earlier.foldl (tick platform) (begin robot record.config)) input

/-- The session finds the arms running, and its first tick with a controller
holds A without Y. -/
def BeginsWithRunningArm (robot : RobotMain K τ) (record : TeleopRecord K) : Prop :=
  robot.lifter ≠ .setVoltage 0 ∧
    ∃ first ∈ record.inputs.find? (fun input => input.pad.connected),
      first.pad.A = true ∧ first.pad.Y = false

theorem followsButtons_iff (platform : Platform K τ π) (robot : RobotMain K τ)
    (record : TeleopRecord K) :
    FollowsButtons platform robot record ↔ ¬ BeginsWithRunningArm robot record := by
  obtain ⟨-, scriptEq, lifterEq, -⟩ := begin_spec robot record.config
  have goneUp : ∀ earlier : List (TeleopInput K),
      (earlier.foldl (tick platform) (begin robot record.config)).script.hasGoneUp =
        earlier.any raises := by
    intro earlier
    simp [hasGoneUp_foldl_tick, scriptEq, load]
  have silent : (begin robot record.config).NextIsSilent record.inputs ↔
      BeginsWithRunningArm robot record := by
    simp only [NextIsSilent, SilentOnRunningArm, BeginsWithRunningArm, scriptEq, lifterEq, load]
    constructor
    · rintro ⟨first, found, -, running, down, notUp⟩
      exact ⟨running, first, found, down, notUp⟩
    · rintro ⟨running, first, found, down, notUp⟩
      exact ⟨first, found, trivial, running, down, notUp⟩
  rw [← silent, ← lifterFollows_steps_iff platform]
  constructor
  · rintro follows ⟨before, input⟩ member
    obtain ⟨earlier, later, split, rfl⟩ := mem_steps_iff.mp member
    have here := follows earlier input later split
    rwa [← goneUp earlier] at here
  · intro follows earlier input later split
    have here := follows _ (mem_steps_iff.mpr ⟨earlier, later, split, rfl⟩)
    rwa [goneUp earlier] at here

/-- **The lifter follows its buttons.** In a sequence of Teleop sessions every
tick with a controller ends with the voltage that the buttons of its session
ask for if and only if no session that finds the arms running has A held
without Y in its first tick with a controller. -/
theorem lifter_follows_buttons_iff (platform : Platform K τ π) (robot : RobotMain K τ)
    (records : List (TeleopRecord K)) :
    (∀ taken ∈ steps (runRecord platform) robot records,
        FollowsButtons platform taken.1 taken.2) ↔
      ∀ taken ∈ steps (runRecord platform) robot records,
        ¬ BeginsWithRunningArm taken.1 taken.2 :=
  forall₂_congr fun taken _ => followsButtons_iff platform taken.1 taken.2

/-- A tick on the bench with buttons Y and A. -/
def armInput (up down : Bool) : TeleopInput Rat where
  pad :=
    { GamepadReading.bench true with
      rawButton := fun button => button = 4 && up || button = 1 && down }
  now := 0

/-- A session left with Y held, and then one begun with A held. -/
theorem lifter_runs_on_in_next_session :
    ¬ ∀ (platform : Platform Rat Unit Unit) (config : Config Rat) (now : Rat)
        (reads : ModeReads Unit) (records : List (TeleopRecord Rat)),
        ∀ taken ∈ steps (runRecord platform) (.create platform config now reads) records,
          FollowsButtons platform taken.1 taken.2 := by
  intro always
  have follows := always .bench .bench 0 (.bench (.boolean true))
    [⟨.bench, [armInput true false]⟩, ⟨.bench, [armInput false true]⟩] _ (.tail _ (.head _))
    [] (armInput false true) [] rfl rfl
  exact absurd follows (by decide +kernel)

end TeleopSession

end RobotFirmware
