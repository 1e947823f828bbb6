import RobotFirmware.ShooterReference
import RobotFirmware.TeleopTick

/-!
# The shooter in the hands of the driver

`teleop.bot` turns the bumpers and the direction pad into calls of the shooter,
which then runs on its counters.  Together they are a machine with one activity
at a time: it takes a request in each tick, follows it or not, and sends the
voltages of its activity to the motors.
-/

namespace RobotFirmware

/-- What the driver asks of the shooter in a tick. -/
inductive ShooterRequest (K : Type*)
  | nothing
  | intake
  | stop
  | shoot (level : K)
  deriving DecidableEq, Repr

namespace GamepadReading

variable {K : Type*} [Field K] (pad : GamepadReading K)

/-- The level of the shot that is asked for: the bumper comes before the
direction pad. -/
def shotLevel : Option K :=
  if pad.rightBumper || pad.rightBumperPressed then some 1
  else if pad.pov = 0 then some 0.80
  else if pad.pov = 90 then some 0.60
  else if pad.pov = 180 then some 0.40
  else if pad.pov = 270 then some 0.20
  else none

/-- The intake comes before a shot, and in the tick in which the right bumper
goes up nothing is asked for. -/
def shooterRequest : ShooterRequest K :=
  if !pad.connected || pad.rightBumperReleased then .nothing
  else if pad.leftBumperPressed || pad.leftBumper then .intake
  else if pad.leftBumperReleased then .stop
  else
    match pad.shotLevel with
    | none => .nothing
    | some level => .shoot level

end GamepadReading

/-- The shooter of a Teleop session, without its counters. -/
structure ShooterMachine (K : Type*) where
  activity : Activity
  level : K
  motors : ShooterMotors K

namespace ShooterMachine

variable {K : Type*}

/-- Only the idle machine begins something, and only the intake is stopped. -/
def accept (machine : ShooterMachine K) (request : ShooterRequest K) : ShooterMachine K :=
  match machine.activity, request with
  | .idle, .intake => { machine with activity := .loading }
  | .idle, .shoot level => { machine with activity := .shooting 0, level := level }
  | .loading, .stop => { machine with activity := .idle }
  | _, _ => machine

@[simp]
theorem accept_nothing (machine : ShooterMachine K) : machine.accept .nothing = machine := by
  cases activity : machine.activity <;> simp [accept, activity]

theorem accept_of_shooting {machine : ShooterMachine K} {served : Nat}
    (shooting : machine.activity = .shooting served) (request : ShooterRequest K) :
    machine.accept request = machine := by
  simp [accept, shooting]

/-- The shooter is in the situation that the machine describes. -/
structure Tracks (settings : ShooterSettings K) (machine : ShooterMachine K)
    (shooter : Shooter K) : Prop where
  state_eq : shooter.state = machine.activity.state
  level_eq : shooter.shootLevel = machine.level
  motors_eq : shooter.motors = machine.motors
  settings_eq : shooter.settings = settings
  shot : ∀ served : Nat, machine.activity = .shooting served →
    shooter.delay = served ∧ shooter.tick = settings.shotTicks - served ∧
      shooter.delayTicks = settings.warmUpTicks

namespace Tracks

open Shooter

variable {settings : ShooterSettings K} {machine : ShooterMachine K} {shooter : Shooter K}

theorem intake (tracks : Tracks settings machine shooter) :
    Tracks settings (machine.accept .intake) shooter.intake := by
  have stateEq := tracks.state_eq
  cases activity : machine.activity with
  | idle =>
      rw [activity] at stateEq
      simp only [Shooter.intake, stateEq, accept, activity]
      exact ⟨rfl, tracks.level_eq, tracks.motors_eq, tracks.settings_eq, by simp⟩
  | _ =>
      rw [activity] at stateEq
      simpa [Shooter.intake, stateEq, accept, activity, Activity.state] using tracks

theorem stop (tracks : Tracks settings machine shooter) (notShooting : shooter.state ≠ .shooting) :
    Tracks settings (machine.accept .stop) shooter.stop := by
  have stateEq := tracks.state_eq
  cases activity : machine.activity with
  | idle =>
      simp only [Shooter.stop, accept, activity]
      exact ⟨by rw [activity]; rfl, tracks.level_eq, tracks.motors_eq, tracks.settings_eq, by
        simp [activity]⟩
  | loading =>
      simp only [Shooter.stop, accept, activity]
      exact ⟨rfl, tracks.level_eq, tracks.motors_eq, tracks.settings_eq, by simp⟩
  | shooting served =>
      rw [activity] at stateEq
      exact absurd stateEq notShooting

theorem shoot (tracks : Tracks settings machine shooter) (idle : shooter.state = .idle) (level : K) :
    Tracks settings (machine.accept (.shoot level)) (shooter.setShootLevel level).shoot := by
  have activity : machine.activity = .idle := activity_eq_idle_iff.mpr (tracks.state_eq ▸ idle)
  have settingsEq : (shooter.setShootLevel level).settings = settings := tracks.settings_eq
  rw [@shoot_of_idle K (shooter.setShootLevel level) idle, settingsEq]
  simp only [accept, activity]
  refine ⟨rfl, rfl, tracks.motors_eq, settingsEq, ?_⟩
  intro served started
  obtain rfl : 0 = served := Activity.shooting.inj started
  exact ⟨rfl, by simp, rfl⟩

end Tracks

variable [Field K] [LinearOrder K]

/-- The voltage of a shot at the current level. -/
def volts (settings : ShooterSettings K) (machine : ShooterMachine K) : K :=
  settings.shootPower * max 0.2 (min 1 machine.level)

/-- The voltages of the activity.  A shot leaves the secondary motors to what
they were sent before until it has warmed up. -/
def output (settings : ShooterSettings K) (machine : ShooterMachine K) : ShooterMotors K :=
  match machine.activity with
  | .idle => .pair 0 0
  | .loading => .pair settings.intakePrimaryPower settings.intakeSecondaryPower
  | .shooting served =>
      if settings.warmUpTicks ≤ served then
        .pair (machine.volts settings) (machine.volts settings)
      else
        { machine.motors with
          primaryTop := machine.volts settings
          primaryBottom := machine.volts settings }

/-- One tick. -/
def advance (settings : ShooterSettings K) (machine : ShooterMachine K)
    (request : ShooterRequest K) : ShooterMachine K :=
  let machine := machine.accept request
  { machine with
    activity := ReferenceShooter.serve settings machine.activity
    motors := machine.output settings }

namespace Tracks

open Shooter

variable {settings : ShooterSettings K} {machine : ShooterMachine K} {shooter : Shooter K}

theorem shootVolts_eq (tracks : Tracks settings machine shooter) :
    shooter.shootVolts = machine.volts settings := by
  rw [volts, ← tracks.settings_eq, ← tracks.level_eq]
  rfl

theorem process (tracks : Tracks settings machine shooter) :
    Tracks settings
      { machine with
        activity := ReferenceShooter.serve settings machine.activity
        motors := machine.output settings } shooter.process := by
  have stateEq := tracks.state_eq
  have settingsEq := tracks.settings_eq
  cases activity : machine.activity with
  | idle =>
      rw [activity] at stateEq
      rw [process_idle stateEq]
      exact ⟨stateEq, tracks.level_eq, by rw [output, activity], settingsEq, by
        simp [ReferenceShooter.serve]⟩
  | loading =>
      rw [activity] at stateEq
      rw [process_loading stateEq]
      exact ⟨stateEq, tracks.level_eq, by rw [output, activity, ← settingsEq]; rfl, settingsEq, by
        simp [ReferenceShooter.serve]⟩
  | shooting served =>
      rw [activity] at stateEq
      obtain ⟨delayEq, tickEq, delayTicksEq⟩ := tracks.shot served activity
      have due : shooter.tick - 1 ≤ 0 ↔ settings.shotTicks ≤ (served : Int) + 1 := by omega
      rw [process_shooting stateEq]
      refine ⟨?_, tracks.level_eq, ?_, settingsEq, ?_⟩
      · by_cases last : settings.shotTicks ≤ (served : Int) + 1 <;>
          simp [ReferenceShooter.serve, due, last, Activity.state]
      · simp only [output, activity, shotMotors, tracks.shootVolts_eq, delayEq, delayTicksEq,
          tracks.motors_eq]
      · intro next nextActivity
        simp only [ReferenceShooter.serve] at nextActivity
        split at nextActivity
        · cases nextActivity
        · obtain rfl : served + 1 = next := Activity.shooting.inj nextActivity
          refine ⟨by simp [delayEq], ?_, delayTicksEq⟩
          simp only [tickEq]
          omega

end Tracks

section Held

/-- The motors after a number of ticks in which a shot of the level was asked
for, if the first of them began one. -/
def heldMotors (settings : ShooterSettings K) (level : K) (motors : ShooterMotors K)
    (count : Nat) : ShooterMotors K :=
  let volts := settings.shootPower * max 0.2 (min 1 level)
  if settings.warmUpTicks < count ∧ settings.warmUpTicks < settings.shotTicks then
    .pair volts volts
  else
    { motors with primaryTop := volts, primaryBottom := volts }

/-- The machine has been asked for a shot in each of a number of ticks. -/
structure Fires (settings : ShooterSettings K) (ticks : Nat) (level : K)
    (motors : ShooterMotors K) (count : Nat) (machine : ShooterMachine K) : Prop where
  activity_eq : machine.activity =
    if count % ticks = 0 then .idle else .shooting (count % ticks)
  level_eq : count ≠ 0 → machine.level = level
  motors_eq : machine.motors =
    if count = 0 then motors else heldMotors settings level motors count

variable {settings : ShooterSettings K} {ticks count : Nat} {level : K} {motors : ShooterMotors K}
  {machine : ShooterMachine K}

theorem Fires.accept (fires : Fires settings ticks level motors count machine) :
    machine.accept (.shoot level) = ⟨.shooting (count % ticks), level, machine.motors⟩ := by
  by_cases due : count % ticks = 0
  · have idle : machine.activity = .idle := by rw [fires.activity_eq, if_pos due]
    simp [ShooterMachine.accept, idle, due]
  · have running : machine.activity = .shooting (count % ticks) := by
      rw [fires.activity_eq, if_neg due]
    have begun : count ≠ 0 := fun first => due (by rw [first, Nat.zero_mod])
    rw [accept_of_shooting running, ← running, ← fires.level_eq begun]

theorem Fires.advance (fires : Fires settings ticks level motors count machine)
    (positive : 0 < ticks) (ticksEq : settings.shotTicks = ticks) :
    Fires settings ticks level motors (count + 1) (machine.advance settings (.shoot level)) := by
  have served : count % ticks < ticks := Nat.mod_lt count positive
  have servedLe : count % ticks ≤ count := Nat.mod_le count ticks
  have next : (count + 1) % ticks = (count % ticks + 1) % ticks := (Nat.mod_add_mod _ _ _).symm
  rw [ShooterMachine.advance, fires.accept]
  refine ⟨?_, fun _ => rfl, ?_⟩
  · simp only [ReferenceShooter.serve, ticksEq]
    by_cases last : count % ticks + 1 = ticks
    · rw [if_pos (by omega), next, last, Nat.mod_self, if_pos rfl]
    · have small : (count % ticks + 1) % ticks = count % ticks + 1 :=
        Nat.mod_eq_of_lt (by omega)
      rw [if_neg (by omega), next, small, if_neg (by omega)]
  · rw [if_neg (by omega), heldMotors]
    simp only [output, volts, fires.motors_eq]
    by_cases feeds : settings.warmUpTicks ≤ (count % ticks : Nat)
    · rw [if_pos feeds, if_pos (by omega)]
    rw [if_neg feeds]
    by_cases fed : settings.warmUpTicks < count ∧ settings.warmUpTicks < settings.shotTicks
    · -- A later shot finds the secondary motors running.
      rw [if_neg (by omega), heldMotors, if_pos fed, if_pos (by omega)]
      rfl
    · have still : ¬ (settings.warmUpTicks < (count + 1 : Nat) ∧
          settings.warmUpTicks < settings.shotTicks) := by
        rintro ⟨here, within⟩
        have first : count % ticks = count := Nat.mod_eq_of_lt (by omega)
        omega
      rw [if_neg still]
      split
      · rfl
      · rw [heldMotors, if_neg fed]

end Held

end ShooterMachine

namespace TeleopScript

variable {K : Type*} [Field K]

/-- An idle shooter without the intake buttons is told to shoot at the level
that is asked for. -/
theorem shooterCalls_of_idle_eq {pad : GamepadReading K} {shooter : Shooter K}
    (idle : shooter.state = .idle) (notReleased : pad.rightBumperReleased = false)
    (noButton : (pad.leftBumperPressed || pad.leftBumper) = false)
    (noRelease : pad.leftBumperReleased = false) :
    shooterCalls pad shooter = pad.shotLevel.toList.map BindingCall.shoot := by
  obtain ⟨notPressed, notDown⟩ := Bool.or_eq_false_iff.mp noButton
  have shot : shooterCalls pad shooter =
      if pad.rightBumper || pad.rightBumperPressed then [.shoot 1]
      else if pad.pov = 0 then [.shoot 0.80]
      else if pad.pov = 90 then [.shoot 0.60]
      else if pad.pov = 180 then [.shoot 0.40]
      else if pad.pov = 270 then [.shoot 0.20]
      else [] := by
    simp [shooterCalls, updateShooter, updateGamepadState, Shooter.isShooting, Shooter.isLoading,
      idle, notReleased, notPressed, notDown, noRelease]
  rw [shot, GamepadReading.shotLevel]
  repeat' split
  all_goals rfl

end TeleopScript

namespace TeleopSession

open Runs Shooter TeleopScript ShooterMachine

variable {K τ π : Type*} [Field K] [LinearOrder K] [FloorRing K]

theorem tracks_shooterCalls_of_noButton {session : TeleopSession K τ}
    {settings : ShooterSettings K} {machine : ShooterMachine K}
    (tracks : Tracks settings machine session.robot.shooter) {pad : GamepadReading K}
    (connected : pad.connected = true) (notShooting : session.robot.shooter.state ≠ .shooting)
    (notReleased : pad.rightBumperReleased = false)
    (noButton : (pad.leftBumperPressed || pad.leftBumper) = false)
    (noRelease : pad.leftBumperReleased = false) :
    Tracks settings (machine.accept pad.shooterRequest)
      (session.robot.toActuators.performAll
        (TeleopScript.shooterCalls pad session.robot.shooter)).shooter := by
  have request : pad.shooterRequest = pad.shotLevel.elim .nothing .shoot := by
    cases level : pad.shotLevel <;>
      simp [GamepadReading.shooterRequest, connected, notReleased, noButton, noRelease, level]
  cases state : session.robot.shooter.state with
  | shooting => exact absurd state notShooting
  | loading =>
      -- The intake is not interrupted by a shot.
      have activity : machine.activity = .loading := by
        have stateEq := tracks.state_eq.symm.trans state
        cases activity : machine.activity <;> simp [activity, Activity.state] at stateEq ⊢
      have kept : machine.accept (pad.shotLevel.elim .nothing .shoot) = machine := by
        cases pad.shotLevel <;> simp [accept, activity]
      rw [shooterCalls_of_loading state noButton noRelease, request, kept]
      exact tracks
  | idle =>
      rw [shooterCalls_of_idle_eq state notReleased noButton noRelease, request]
      cases pad.shotLevel with
      | none => simpa using tracks
      | some level => exact tracks.shoot state level

/-- The calls of `update_shooter` are what the machine makes of the request. -/
theorem tracks_shooterCalls {session : TeleopSession K τ} {settings : ShooterSettings K}
    {machine : ShooterMachine K} (tracks : Tracks settings machine session.robot.shooter)
    (input : TeleopInput K) :
    Tracks settings (machine.accept input.pad.shooterRequest)
      (session.robot.toActuators.performAll (session.shooterCalls input)).shooter := by
  cases connected : input.pad.connected with
  | false => simpa [GamepadReading.shooterRequest, shooterCalls, connected] using tracks
  | true =>
      rw [shooterCalls, if_pos connected]
      by_cases shooting : session.robot.shooter.state = .shooting
      · obtain ⟨served, activity⟩ : ∃ served, machine.activity = .shooting served := by
          have stateEq := tracks.state_eq.symm.trans shooting
          cases activity : machine.activity with
          | shooting served => exact ⟨served, rfl⟩
          | _ => simp [activity, Activity.state] at stateEq
        rw [shooterCalls_of_early_return (.inl shooting), accept_of_shooting activity]
        exact tracks
      cases released : input.pad.rightBumperReleased with
      | true =>
          rw [shooterCalls_of_early_return (.inr released)]
          simpa [GamepadReading.shooterRequest, released] using tracks
      | false =>
          cases button : input.pad.leftBumperPressed || input.pad.leftBumper with
          | true =>
              rw [shooterCalls_of_intake shooting released button]
              simpa [GamepadReading.shooterRequest, connected, released, button, Actuators.perform]
                using tracks.intake
          | false =>
              cases release : input.pad.leftBumperReleased with
              | true =>
                  rw [shooterCalls_of_release shooting released button release]
                  simpa [GamepadReading.shooterRequest, connected, released, button, release,
                    Actuators.perform] using tracks.stop shooting
              | false =>
                  exact tracks_shooterCalls_of_noButton tracks connected shooting released button release

theorem tracks_tick (platform : Platform K τ π) {session : TeleopSession K τ}
    {settings : ShooterSettings K} {machine : ShooterMachine K}
    (tracks : Tracks settings machine session.robot.shooter) (input : TeleopInput K) :
    Tracks settings (machine.advance settings input.pad.shooterRequest)
      (session.tick platform input).robot.shooter := by
  rw [shooter_tick]
  exact (tracks_shooterCalls tracks input).process

theorem tracks_begin (robot : RobotMain K τ) (config : Config K) :
    Tracks (robot.shooter.reset config).settings ⟨.idle, 1, robot.shooter.motors⟩
      (begin robot config).robot.shooter := by
  obtain ⟨-, -, -, shooterEq⟩ := begin_spec robot config
  rw [shooterEq]
  exact ⟨rfl, rfl, rfl, rfl, by simp⟩

/-- In every Teleop session the shooter does what the machine does with the
requests of the driver. -/
theorem tracks_foldl_tick (platform : Platform K τ π) {session : TeleopSession K τ}
    {settings : ShooterSettings K} {machine : ShooterMachine K}
    (tracks : Tracks settings machine session.robot.shooter) (inputs : List (TeleopInput K)) :
    Tracks settings
      (inputs.foldl
        (fun machine input => machine.advance settings input.pad.shooterRequest) machine)
      (inputs.foldl (tick platform) session).robot.shooter :=
  related_of_steps
    (fun (machine : ShooterMachine K) (input : TeleopInput K) =>
      machine.advance settings input.pad.shooterRequest)
    (tick platform) (fun machine session => Tracks settings machine session.robot.shooter)
    (fun _ _ => True) (fun _ _ input tracks _ => tracks_tick platform tracks input) tracks
    (fun _ _ => trivial)

theorem fires_foldl_tick (platform : Platform K τ π) {session : TeleopSession K τ}
    {settings : ShooterSettings K} {ticks count : Nat} (positive : 0 < ticks)
    (ticksEq : settings.shotTicks = ticks) {level : K} {motors : ShooterMotors K}
    {machine : ShooterMachine K} (fires : Fires settings ticks level motors count machine)
    (tracks : Tracks settings machine session.robot.shooter) {held : List (TeleopInput K)}
    (asks : ∀ input ∈ held, input.pad.shooterRequest = .shoot level) :
    ∃ last, Fires settings ticks level motors (count + held.length) last ∧
      Tracks settings last (held.foldl (tick platform) session).robot.shooter := by
  induction held generalizing session count machine with
  | nil => exact ⟨machine, fires, tracks⟩
  | cons input rest ih =>
      obtain ⟨here, later⟩ := List.forall_mem_cons.mp asks
      have next := tracks_tick platform tracks input
      rw [here] at next
      obtain ⟨last, firesLast, tracksLast⟩ :=
        ih (fires.advance positive ticksEq) next later
      refine ⟨last, ?_, tracksLast⟩
      rwa [List.length_cons, Nat.add_comm rest.length, ← Nat.add_assoc]

/-- **A held button keeps firing.** From every idle state of a session on, while
each tick asks for a shot of one level, the shots follow one another without a
tick between them: the shooter is idle exactly after whole numbers of shots,
the primary motors have the voltage of the level in every tick, and from the
end of the first warm-up on so have the secondary motors, through the warm-ups
of all later shots.  Where the warm-up is as long as the shot, they are never
commanded. -/
theorem held_button_keeps_firing (platform : Platform K τ π) (robot : RobotMain K τ)
    (config : Config K) (period : 1 ≤ config.integer "engine" "period" 0)
    (earlier held : List (TeleopInput K)) (nonempty : held ≠ []) (level : K)
    (asks : ∀ input ∈ held, input.pad.shooterRequest = .shoot level)
    (idle : (earlier.foldl (tick platform) (begin robot config)).robot.shooter.state = .idle) :
    let session := earlier.foldl (tick platform) (begin robot config)
    let settings := session.robot.shooter.settings
    let shooter := (held.foldl (tick platform) session).robot.shooter
    (shooter.state = .idle ↔ settings.shotTicks ∣ held.length) ∧
      shooter.motors = heldMotors settings level session.robot.shooter.motors held.length := by
  intro session settings shooter
  have followed := tracks_foldl_tick platform (tracks_begin robot config) earlier
  have settingsEq : (robot.shooter.reset config).settings = settings := followed.settings_eq.symm
  obtain ⟨machine, tracks⟩ : ∃ machine, Tracks settings machine session.robot.shooter := by
    rw [← settingsEq]
    exact ⟨_, followed⟩
  have positive : 1 ≤ settings.shotTicks := by
    rw [← settingsEq]
    exact period.trans (le_max_left _ _)
  obtain ⟨ticks, ticksEq⟩ := Int.eq_ofNat_of_zero_le (zero_le_one.trans positive)
  have start : Fires settings ticks level session.robot.shooter.motors 0 machine := by
    have activity : machine.activity = .idle :=
      activity_eq_idle_iff.mpr (tracks.state_eq.symm.trans idle)
    exact ⟨by simpa using activity, by simp, by simpa using tracks.motors_eq.symm⟩
  obtain ⟨last, fires, tracksLast⟩ := fires_foldl_tick platform (by omega) ticksEq start tracks asks
  rw [Nat.zero_add] at fires
  have some : held.length ≠ 0 := by simpa using nonempty
  constructor
  · rw [ticksEq, Int.natCast_dvd_natCast, Nat.dvd_iff_mod_eq_zero, tracksLast.state_eq,
      ← activity_eq_idle_iff, fires.activity_eq]
    split <;> simp [*]
  · rw [tracksLast.motors_eq, fires.motors_eq, if_neg some]

/-- Three ticks on the bench with the right bumper held: a shot and a half. -/
theorem held_button_keeps_firing_bench :
    let input := TeleopInput.bench ⟨false, true⟩ ⟨false, true⟩
    let session := begin (.create .bench .bench 0 (.bench (.boolean true))) .bench
    let settings := session.robot.shooter.settings
    let shooter := ([input, input, input].foldl (tick .bench) session).robot.shooter
    (shooter.state = .idle ↔ settings.shotTicks ∣ 3) ∧
      shooter.motors = heldMotors settings 1 session.robot.shooter.motors 3 :=
  held_button_keeps_firing .bench _ .bench (by decide +kernel) []
    [.bench ⟨false, true⟩ ⟨false, true⟩, .bench ⟨false, true⟩ ⟨false, true⟩,
      .bench ⟨false, true⟩ ⟨false, true⟩] (by simp) 1 (by decide +kernel) rfl

end TeleopSession

end RobotFirmware
