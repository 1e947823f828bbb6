import RobotFirmware.Runs
import RobotFirmware.Shooter

/-!
# The shooter as its motors should see it

The class comment of `Shooter` promises that shooting and loading do not
overlap.  The reference shooter below states this at the motors: what is sent
to all four of them depends only on the current activity and the settings.
The shooter refines it along every run whose accepted shots find the secondary
motors at rest.
-/

namespace RobotFirmware

/-- The values that a shooter reads from the configuration. -/
structure ShooterSettings (K : Type*) where
  warmTimeMs : Int
  shootTimeMs : Int
  periodMs : Int
  shootPower : K
  intakePrimaryPower : K
  intakeSecondaryPower : K
  deriving DecidableEq, Repr

namespace ShooterSettings

variable {K : Type*}

/-- The number of `process` calls in a shot. -/
def shotTicks (settings : ShooterSettings K) : Int :=
  max settings.periodMs
    ((settings.warmTimeMs + settings.shootTimeMs).tdiv settings.periodMs)

/-- The number of `process` calls before a shot feeds the note. -/
def warmUpTicks (settings : ShooterSettings K) : Int :=
  max settings.periodMs (settings.warmTimeMs.tdiv settings.periodMs)

variable [Field K] [LinearOrder K] [FloorRing K]

/-- The settings that a reset reads again; the times are read once. -/
def reload (config : Config K) (settings : ShooterSettings K) : ShooterSettings K :=
  { settings with
    periodMs := config.integer "engine" "period" 0
    shootPower := max 1 (config.number "shooter" "shoot_power" 0)
    intakePrimaryPower := -1 * max 1 (config.number "shooter" "intake_primary_power" 0)
    intakeSecondaryPower := -1 * max 1 (config.number "shooter" "intake_secondary_power" 0) }

end ShooterSettings

/-- The settings currently held by a shooter. -/
def Shooter.settings {K : Type*} (shooter : Shooter K) : ShooterSettings K where
  warmTimeMs := shooter.warmTimeMs
  shootTimeMs := shooter.shootTimeMs
  periodMs := shooter.periodMs
  shootPower := shooter.shootPower
  intakePrimaryPower := shooter.intakePrimaryPower
  intakeSecondaryPower := shooter.intakeSecondaryPower

theorem Shooter.shoot_of_idle {K : Type*} {shooter : Shooter K} (idle : shooter.state = .idle) :
    shooter.shoot =
      { shooter with
        state := .shooting
        totalTimeMs := shooter.warmTimeMs + shooter.shootTimeMs
        tick := shooter.settings.shotTicks
        delayTicks := shooter.settings.warmUpTicks
        delay := 0 } := by
  simp [Shooter.shoot, idle, ShooterSettings.shotTicks, ShooterSettings.warmUpTicks, Shooter.settings]

/-- What the reference shooter is doing.  A shot counts the `process` calls it
has had so far. -/
inductive Activity
  | idle
  | loading
  | shooting (served : Nat)
  deriving DecidableEq, Repr

/-- The state that a shooter reports during an activity. -/
def Activity.state : Activity → Shooter.State
  | .idle => .idle
  | .loading => .loading
  | .shooting _ => .shooting

/-- A shooter without motors and counters. -/
structure ReferenceShooter (K : Type*) where
  activity : Activity
  level : K
  settings : ShooterSettings K

namespace ReferenceShooter

variable {K : Type*} [Field K] [LinearOrder K]

/-- The voltages that a `process` call should leave at the motors. -/
def output (reference : ReferenceShooter K) : ShooterMotors K :=
  let settings := reference.settings
  let volts := settings.shootPower * max 0.2 (min 1 reference.level)
  match reference.activity with
  | .idle => .pair 0 0
  | .loading => .pair settings.intakePrimaryPower settings.intakeSecondaryPower
  | .shooting served => .pair volts (if served < settings.warmUpTicks then 0 else volts)

/-- A `process` call serves the current shot and ends it when it is due. -/
def serve (settings : ShooterSettings K) : Activity → Activity
  | .shooting served =>
      if settings.shotTicks ≤ served + 1 then .idle else .shooting (served + 1)
  | activity => activity

variable [FloorRing K]

/-- The reference shooter takes the same calls. -/
def perform (reference : ReferenceShooter K) : Shooter.Call K → ReferenceShooter K
  | .intake =>
      if reference.activity = .idle then
        { reference with activity := .loading }
      else
        reference
  | .shoot =>
      if reference.activity = .idle then
        { reference with activity := .shooting 0 }
      else
        reference
  | .stop => { reference with activity := .idle }
  | .reset config => ⟨.idle, 1, reference.settings.reload config⟩
  | .setShootLevel level => { reference with level := level }
  | .process =>
      { reference with activity := serve reference.settings reference.activity }

/-- The reference shooter at construction. -/
def create (config : Config K) : ReferenceShooter K :=
  ⟨.idle, 1, (Shooter.create config).settings⟩

end ReferenceShooter

namespace Shooter

open ReferenceShooter Runs

variable {K : Type*} [Field K] [LinearOrder K]

/-- Both secondary motors were last told to stand still. -/
def SecondaryAtRest (shooter : Shooter K) : Prop :=
  shooter.motors.secondaryTop = 0 ∧ shooter.motors.secondaryBottom = 0

/-- A shot that this call starts finds the secondary motors at rest. -/
def ShootsFromRest (shooter : Shooter K) (call : Call K) : Prop :=
  call matches .shoot → shooter.state = .idle → shooter.SecondaryAtRest

/-- The shooter is in the situation that the reference shooter describes. -/
structure Refines (shooter : Shooter K) (reference : ReferenceShooter K) : Prop where
  state_eq : shooter.state = reference.activity.state
  level_eq : shooter.shootLevel = reference.level
  settings_eq : shooter.settings = reference.settings
  shot : ∀ served, reference.activity = .shooting served →
    shooter.delay = served ∧
      shooter.tick = reference.settings.shotTicks - served ∧
        shooter.delayTicks = reference.settings.warmUpTicks ∧
          (served < reference.settings.warmUpTicks → shooter.SecondaryAtRest)

theorem activity_eq_idle_iff {activity : Activity} :
    activity = .idle ↔ activity.state = .idle := by
  cases activity <;> simp [Activity.state]

theorem Refines.shootVolts_eq {shooter : Shooter K} {reference : ReferenceShooter K}
    (refines : Refines shooter reference) :
    shooter.shootVolts =
      reference.settings.shootPower * max 0.2 (min 1 reference.level) := by
  rw [← refines.settings_eq, ← refines.level_eq]
  rfl

theorem Refines.process_motors {shooter : Shooter K} {reference : ReferenceShooter K}
    (refines : Refines shooter reference) :
    shooter.process.motors = reference.output := by
  have stateEq := refines.state_eq
  have settingsEq := refines.settings_eq
  cases activity : reference.activity with
  | idle =>
      rw [activity] at stateEq
      simp [process_idle stateEq, output, activity]
  | loading =>
      rw [activity] at stateEq
      simp [process_loading stateEq, output, activity, ← settingsEq, settings]
  | shooting served =>
      rw [activity] at stateEq
      obtain ⟨delayEq, -, delayTicksEq, atRest⟩ := refines.shot served activity
      have voltsEq := refines.shootVolts_eq
      simp only [process_shooting stateEq, output, activity, ← voltsEq, shotMotors,
        delayEq, delayTicksEq]
      by_cases warming : (served : Int) < reference.settings.warmUpTicks
      · obtain ⟨top, bottom⟩ := atRest warming
        rw [if_neg (not_le.mpr warming), if_pos warming]
        simp [ShooterMotors.pair, top, bottom]
      · rw [if_pos (not_lt.mp warming), if_neg warming]

theorem Refines.process {shooter : Shooter K} {reference : ReferenceShooter K}
    (refines : Refines shooter reference) :
    Refines shooter.process
      { reference with activity := serve reference.settings reference.activity } := by
  have stateEq := refines.state_eq
  have motorsEq := refines.process_motors
  cases activity : reference.activity with
  | idle =>
      rw [activity] at stateEq
      rw [process_idle stateEq]
      exact ⟨stateEq, refines.level_eq, refines.settings_eq, by simp [serve]⟩
  | loading =>
      rw [activity] at stateEq
      rw [process_loading stateEq]
      exact ⟨stateEq, refines.level_eq, refines.settings_eq, by simp [serve]⟩
  | shooting served =>
      rw [activity] at stateEq
      obtain ⟨delayEq, tickEq, delayTicksEq, -⟩ := refines.shot served activity
      rw [process_shooting stateEq] at motorsEq ⊢
      have due : shooter.tick - 1 ≤ 0 ↔ reference.settings.shotTicks ≤ (served : Int) + 1 := by
        omega
      refine ⟨?_, refines.level_eq, refines.settings_eq, ?_⟩
      · by_cases last : reference.settings.shotTicks ≤ (served : Int) + 1 <;>
          simp [serve, due, last, Activity.state]
      · intro next nextActivity
        have nextEq : next = served + 1 := by
          simp only [serve] at nextActivity
          split at nextActivity
          · simp at nextActivity
          · simpa using nextActivity.symm
        subst nextEq
        refine ⟨by simp [delayEq], ?_, delayTicksEq, ?_⟩
        · simp only [tickEq]
          omega
        · intro warming
          have warmingNow : (served : Int) < reference.settings.warmUpTicks := by
            have := warming
            simp only at this
            omega
          simp only [output, activity, if_pos warmingNow] at motorsEq
          exact ⟨by simp [motorsEq, ShooterMotors.pair],
            by simp [motorsEq, ShooterMotors.pair]⟩

variable [FloorRing K]

theorem refines_create (config : Config K) :
    Refines (create config) (ReferenceShooter.create config) :=
  ⟨rfl, rfl, rfl, by simp [ReferenceShooter.create]⟩

/-- Every call keeps the refinement, except an accepted shot that finds a
secondary motor running. -/
theorem Refines.perform {shooter : Shooter K} {reference : ReferenceShooter K}
    (refines : Refines shooter reference) (call : Call K)
    (fromRest : ShootsFromRest shooter call) :
    Refines (shooter.perform call) (reference.perform call) := by
  have stateEq := refines.state_eq
  have settingsEq := refines.settings_eq
  cases call with
  | intake =>
      simp only [Shooter.perform, ReferenceShooter.perform, intake, activity_eq_idle_iff,
        ← stateEq]
      by_cases idle : shooter.state = .idle
      · simp only [idle, ne_eq, not_true_eq_false, ↓reduceIte]
        exact ⟨rfl, refines.level_eq, settingsEq, by simp⟩
      · simpa only [ne_eq, idle, not_false_eq_true, ↓reduceIte] using refines
  | shoot =>
      simp only [Shooter.perform, ReferenceShooter.perform, activity_eq_idle_iff, ← stateEq]
      by_cases idle : shooter.state = .idle
      · rw [if_pos idle, shoot_of_idle idle]
        refine ⟨rfl, refines.level_eq, settingsEq, ?_⟩
        intro served started
        have first : served = 0 := by simpa using started.symm
        subst first
        rw [← settingsEq]
        exact ⟨rfl, by simp, rfl, fun _ => fromRest rfl idle⟩
      · simpa only [shoot, ne_eq, idle, not_false_eq_true, ↓reduceIte] using refines
  | stop => exact ⟨rfl, refines.level_eq, settingsEq, by simp [ReferenceShooter.perform]⟩
  | reset config =>
      refine ⟨rfl, rfl, ?_, by simp [ReferenceShooter.perform]⟩
      simp only [ReferenceShooter.perform, ← settingsEq]
      rfl
  | setShootLevel level =>
      exact ⟨stateEq, rfl, settingsEq, refines.shot⟩
  | process => exact refines.process

/-- **Refinement.** In a run whose accepted shots all find the secondary
motors at rest, every `process` call sends the four voltages of the reference
shooter that has taken the same calls, and both are in the same state when the
call begins. -/
theorem process_sends_reference_output (config : Config K) (calls : List (Call K))
    (fromRest : ∀ taken ∈ steps perform (create config) calls,
      ShootsFromRest taken.1 taken.2)
    (before after : List (Call K)) (split : calls = before ++ .process :: after) :
    let shooter := before.foldl perform (create config)
    let reference := before.foldl ReferenceShooter.perform (ReferenceShooter.create config)
    shooter.state = reference.activity.state ∧
      (shooter.perform .process).motors = reference.output := by
  have beforeFromRest : ∀ taken ∈ steps perform (create config) before,
      ShootsFromRest taken.1 taken.2 := by
    intro taken member
    apply fromRest taken
    rw [split, steps_append]
    exact List.mem_append_left _ member
  have refines : Refines (before.foldl perform (create config))
      (before.foldl ReferenceShooter.perform (ReferenceShooter.create config)) :=
    related_of_steps perform ReferenceShooter.perform Refines ShootsFromRest
      (fun _ _ call related allowed => Refines.perform related call allowed)
      (refines_create config) beforeFromRest
  exact ⟨refines.state_eq, refines.process_motors⟩

/-- A shot requested between two `process` calls, right after an intake is
stopped, warms up with the secondary motors still at the intake voltage. -/
theorem process_after_stopped_intake_differs :
    ¬ ∀ (config : Config Rat) (calls before after : List (Call Rat)),
      calls = before ++ .process :: after →
        let shooter := before.foldl perform (create config)
        let reference := before.foldl ReferenceShooter.perform
          (ReferenceShooter.create config)
        (shooter.perform .process).motors = reference.output := by
  intro always
  have equal := always .bench _ [.intake, .process, .stop, .shoot] [] rfl
  exact absurd equal (by decide +kernel)

/-- A single uninterrupted shot is such a run; its second call feeds the note. -/
theorem process_sends_reference_output_of_single_shot :
    let shooter := [Call.shoot, .process].foldl perform (create .bench)
    let reference := [Call.shoot, .process].foldl ReferenceShooter.perform
      (ReferenceShooter.create .bench)
    shooter.state = reference.activity.state ∧
      (shooter.perform .process).motors = reference.output :=
  process_sends_reference_output .bench [.shoot, .process, .process]
    (by
      intro taken member
      simp only [steps_cons, steps_nil, List.mem_cons, List.not_mem_nil, or_false] at member
      rcases member with rfl | rfl | rfl
      · exact fun _ _ => ⟨rfl, rfl⟩
      · simp [ShootsFromRest]
      · simp [ShootsFromRest])
    [.shoot, .process] [] rfl

end Shooter

end RobotFirmware
