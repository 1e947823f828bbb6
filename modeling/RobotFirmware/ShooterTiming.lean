import RobotFirmware.FailSafe

/-!
# The duration of a shot

The configuration gives the duration of a shot and of its warm-up in seconds,
and the engine its period in milliseconds.  `Shooter::shoot` turns the two
durations into numbers of `process` calls, and takes the larger of that number
and of the period itself.  The second is a number of milliseconds, so it counts
as soon as a duration is shorter than as many periods as a period has
milliseconds.
-/

namespace RobotFirmware

namespace Shooter

variable {K : Type*}

/-- The configuration whose period holds after a call. -/
def Call.latest (config : Config K) : Call K → Config K
  | .reset latest => latest
  | _ => config

/-- The configuration that the constructor or the last reset of a run has read. -/
def lastConfig (config : Config K) (calls : List (Call K)) : Config K :=
  calls.foldl Call.latest config

variable [Field K] [LinearOrder K] [FloorRing K]

/-- A period of `p` milliseconds in the configuration that was read last, and
times of `w` and `s` milliseconds in the one that the constructor has read.  The
product of a time in seconds and a thousand is a double, and what is behind its
point is cut off. -/
structure ConfiguredTimes (config latest : Config K) (p w s : Int) : Prop where
  period : latest.number "engine" "period" 0 = p
  warmTime : Config.toInt (Config.double (1000.0 * config.number "shooter" "warmup_time" 0)) = w
  shootTime : Config.toInt (Config.double (1000.0 * config.number "shooter" "shoot_time" 0)) = s
  period_pos : 1 ≤ p
  warmTime_nonneg : 0 ≤ w
  period_le : p ≤ s
  fits : w + s < 2 ^ 31

namespace ConfiguredTimes

variable {config latest : Config K} {p w s : Int}

theorem warmUp_nonneg (times : ConfiguredTimes config latest p w s) : 0 ≤ w / p :=
  Int.ediv_nonneg times.warmTime_nonneg (by have := times.period_pos; omega)

/-- A shot that is as long as a period feeds for a period at least. -/
theorem warmUp_lt (times : ConfiguredTimes config latest p w s) : w / p < (w + s) / p := by
  have period := times.period_pos
  have next : w / p + 1 = (w + p) / p := by
    rw [Int.add_ediv_of_dvd_right (dvd_refl _), Int.ediv_self (by omega)]
  have longer : (w + p) / p ≤ (w + s) / p :=
    Int.ediv_le_ediv (by omega) (by have := times.period_le; omega)
  omega

/-- Times that are a whole number of milliseconds are converted as they are. -/
theorem of_exact [IsStrictOrderedRing K] (period : latest.number "engine" "period" 0 = p)
    (warmTime : 1000.0 * config.number "shooter" "warmup_time" 0 = (w : K))
    (shootTime : 1000.0 * config.number "shooter" "shoot_time" 0 = (s : K))
    (period_pos : 1 ≤ p) (warmTime_nonneg : 0 ≤ w) (period_le : p ≤ s)
    (fits : w + s < 2 ^ 31) : ConfiguredTimes config latest p w s := by
  refine ⟨period, ?_, ?_, period_pos, warmTime_nonneg, period_le, fits⟩
  · rw [warmTime, Config.toInt_double_intCast warmTime_nonneg (by omega)]
  · rw [shootTime, Config.toInt_double_intCast (by omega) (by omega)]

end ConfiguredTimes

/-- The shooter holds the times of a configuration, and the period of the one
that was read last. -/
structure HoldsTimes (config latest : Config K) (shooter : Shooter K) : Prop where
  warmTime : shooter.warmTimeMs =
    Config.toInt (Config.double (1000.0 * config.number "shooter" "warmup_time" 0))
  shootTime : shooter.shootTimeMs =
    Config.toInt (Config.double (1000.0 * config.number "shooter" "shoot_time" 0))
  period : shooter.periodMs = latest.integer "engine" "period" 0

namespace HoldsTimes

variable {config latest : Config K} {shooter : Shooter K}

theorem perform (holds : HoldsTimes config latest shooter) (call : Call K) :
    HoldsTimes config (call.latest latest) (shooter.perform call) := by
  obtain ⟨warmTime, shootTime, period⟩ := holds
  cases call with
  | intake =>
      simp only [Shooter.perform, intake]
      split <;> exact ⟨warmTime, shootTime, period⟩
  | shoot =>
      simp only [Shooter.perform, shoot]
      split <;> exact ⟨warmTime, shootTime, period⟩
  | stop => exact ⟨warmTime, shootTime, period⟩
  | reset config => exact ⟨warmTime, shootTime, rfl⟩
  | setShootLevel level => exact ⟨warmTime, shootTime, period⟩
  | process =>
      obtain ⟨state, lastState, tick, delay, motors, processed⟩ := process_frame shooter
      rw [Shooter.perform, processed]
      exact ⟨warmTime, shootTime, period⟩

theorem of_calls (config : Config K) (calls : List (Call K)) :
    HoldsTimes config (lastConfig config calls) (calls.foldl Shooter.perform (create config)) := by
  apply Runs.related_of_steps Call.latest Shooter.perform (HoldsTimes config) (fun _ _ => True)
  · exact fun _ _ call holds _ => holds.perform call
  · exact ⟨rfl, rfl, rfl⟩
  · exact fun _ _ => trivial

variable {p w s : Int}

theorem settings_eq [IsStrictOrderedRing K] (holds : HoldsTimes config latest shooter)
    (times : ConfiguredTimes config latest p w s) :
    shooter.settings.periodMs = p ∧ shooter.settings.warmTimeMs = w ∧
      shooter.settings.shootTimeMs = s := by
  refine ⟨?_, holds.warmTime.trans times.warmTime, holds.shootTime.trans times.shootTime⟩
  have period := times.period_pos
  rw [settings, holds.period, Config.integer, Int.cast_zero, times.period, Config.toInt,
    if_pos (Int.cast_nonneg (by omega)), Int.floor_intCast]

theorem shotTicks_eq [IsStrictOrderedRing K] (holds : HoldsTimes config latest shooter)
    (times : ConfiguredTimes config latest p w s) :
    shooter.settings.shotTicks = max p ((w + s) / p) := by
  have period := times.period_pos
  have nonneg := times.warmTime_nonneg
  have longer := times.period_le
  obtain ⟨periodEq, warmEq, shootEq⟩ := holds.settings_eq times
  rw [ShooterSettings.shotTicks, periodEq, warmEq, shootEq, Int.tdiv_eq_ediv_of_nonneg (by omega)]

theorem warmUpTicks_eq [IsStrictOrderedRing K] (holds : HoldsTimes config latest shooter)
    (times : ConfiguredTimes config latest p w s) :
    shooter.settings.warmUpTicks = max p (w / p) := by
  obtain ⟨periodEq, warmEq, -⟩ := holds.settings_eq times
  rw [ShooterSettings.warmUpTicks, periodEq, warmEq,
    Int.tdiv_eq_ediv_of_nonneg times.warmTime_nonneg]

end HoldsTimes

end Shooter

namespace ReferenceShooter

variable {K : Type*}

/-- A shot is served until its last tick is due. -/
theorem iterate_serve_shooting (settings : ShooterSettings K) (positive : 1 ≤ settings.shotTicks)
    (count : Nat) :
    (serve settings)^[count] (.shooting 0) =
      if settings.shotTicks ≤ count then .idle else .shooting count := by
  induction count with
  | zero => rw [if_neg (by simp only [Nat.cast_zero]; omega), Function.iterate_zero_apply]
  | succ count ih =>
      rw [Function.iterate_succ_apply', ih]
      by_cases complete : settings.shotTicks ≤ count
      · rw [if_pos complete, if_pos (by simp only [Nat.cast_add, Nat.cast_one]; omega)]
        rfl
      · rw [if_neg complete]
        simp only [serve, Nat.cast_add, Nat.cast_one]

end ReferenceShooter

namespace Shooter

open ReferenceShooter Runs

variable {K : Type*} [Field K]

theorem refines_shoot {shooter : Shooter K} (idle : shooter.state = .idle)
    (atRest : shooter.SecondaryAtRest) :
    Refines shooter.shoot ⟨.shooting 0, shooter.shootLevel, shooter.settings⟩ := by
  rw [shoot_of_idle idle]
  refine ⟨rfl, rfl, rfl, ?_⟩
  intro served started
  have first : served = 0 := by simpa using started.symm
  subst first
  exact ⟨rfl, by simp, rfl, fun _ => atRest⟩

variable [LinearOrder K]

theorem Refines.iterate_process {shooter : Shooter K} {reference : ReferenceShooter K}
    (refines : Refines shooter reference) (count : Nat) :
    Refines (Shooter.process^[count] shooter)
      { reference with
        activity := (serve reference.settings)^[count] reference.activity } := by
  induction count with
  | zero => exact refines
  | succ count ih =>
      rw [Function.iterate_succ_apply', Function.iterate_succ_apply']
      exact ih.process

theorem uninterrupted_shot {shooter : Shooter K} (idle : shooter.state = .idle)
    (atRest : shooter.SecondaryAtRest) (positive : 1 ≤ shooter.settings.shotTicks) (count : Nat) :
    ((process^[count] shooter.shoot).state = .idle ↔ shooter.settings.shotTicks ≤ count) ∧
      (¬ shooter.settings.shotTicks ≤ count →
        (process^[count + 1] shooter.shoot).motors =
          .pair shooter.shootVolts
            (if count < shooter.settings.warmUpTicks then 0 else shooter.shootVolts)) := by
  have refines := (refines_shoot idle atRest).iterate_process count
  rw [iterate_serve_shooting _ positive] at refines
  constructor
  · rw [refines.state_eq]
    by_cases complete : shooter.settings.shotTicks ≤ count
    · simp [complete, Activity.state]
    · simp [complete, Activity.state]
  · intro running
    rw [Function.iterate_succ_apply', refines.process_motors]
    simp only [output, if_neg running]
    rfl

/-- What the configured times, as whole periods, promise of the shot that
`shoot` begins: it is over after as many `process` calls as it has periods, the
secondary motors are not commanded in the calls of the warm-up and get the
voltage of the shot in the later ones, and there is such a call. -/
structure TakesConfiguredTime (shooter : Shooter K) (shotPeriods warmUpPeriods : Int) :
    Prop where
  idle_iff : ∀ count : Nat,
    (process^[count] shooter.shoot).state = .idle ↔ shotPeriods ≤ count
  warmsUp : ∀ count : Nat, count < warmUpPeriods →
    (process^[count + 1] shooter.shoot).SecondaryAtRest
  feeds : ∀ count : Nat, warmUpPeriods ≤ count → count < shotPeriods →
    (process^[count + 1] shooter.shoot).motors.secondaryTop = shooter.shootVolts ∧
      (process^[count + 1] shooter.shoot).motors.secondaryBottom = shooter.shootVolts
  feeding : ∃ count : Nat, count < shotPeriods ∧
    (process^[count + 1] shooter.shoot).motors.secondaryTop = shooter.shootVolts ∧
      (process^[count + 1] shooter.shoot).motors.secondaryBottom = shooter.shootVolts

variable [FloorRing K] [IsStrictOrderedRing K]

theorem HoldsTimes.takesConfiguredTime_iff {config latest : Config K} {shooter : Shooter K}
    {p w s : Int} (holds : HoldsTimes config latest shooter)
    (times : ConfiguredTimes config latest p w s) (idle : shooter.state = .idle)
    (atRest : shooter.SecondaryAtRest) (powered : shooter.shootVolts ≠ 0) :
    shooter.TakesConfiguredTime ((w + s) / p) (w / p) ↔ p ≤ w / p := by
  have period := times.period_pos
  have warmUp := times.warmUp_nonneg
  have shorter := times.warmUp_lt
  have shotTicks := holds.shotTicks_eq times
  have warmUpTicks := holds.warmUpTicks_eq times
  have shot := uninterrupted_shot idle atRest (by omega)
  obtain ⟨first, firstEq⟩ := Int.eq_ofNat_of_zero_le warmUp
  constructor
  · intro configured
    -- The shot has its configured length, so it is still running when the warm-up ends.
    have length := (shot first).1.symm.trans (configured.idle_iff first)
    have fed := (configured.feeds first (by omega) (by omega)).1
    rw [(shot first).2 (by omega)] at fed
    by_contra periodLonger
    rw [if_pos (by omega)] at fed
    exact powered fed.symm
  · intro short
    rw [max_eq_right (by omega)] at shotTicks warmUpTicks
    have feeds (count : Nat) (warm : w / p ≤ count) (running : count < (w + s) / p) :
        (process^[count + 1] shooter.shoot).motors.secondaryTop = shooter.shootVolts ∧
          (process^[count + 1] shooter.shoot).motors.secondaryBottom = shooter.shootVolts := by
      rw [(shot count).2 (by omega), if_neg (by omega)]
      exact ⟨rfl, rfl⟩
    refine ⟨fun count => ?_, fun count warming => ?_, feeds, first, by omega, ?_⟩
    · rw [(shot count).1, shotTicks]
    · rw [SecondaryAtRest, (shot count).2 (by omega), if_pos (by omega)]
      exact ⟨rfl, rfl⟩
    · exact feeds first (by omega) (by omega)

/-- **Duration of a shot.** For a shooter in any situation its calls can lead
to, a shot requested from rest takes the configured time, and its warm-up the
configured warm-up time, if and only if the warm-up time is at least as many
periods long as a period has milliseconds. -/
theorem shot_takes_configured_time_iff (config : Config K) (calls : List (Call K)) {p w s : Int}
    (times : ConfiguredTimes config (lastConfig config calls) p w s)
    (idle : (calls.foldl perform (create config)).state = .idle)
    (atRest : (calls.foldl perform (create config)).SecondaryAtRest) :
    (calls.foldl perform (create config)).TakesConfiguredTime ((w + s) / p) (w / p) ↔
      p ≤ w / p := by
  have inRange := powersInRange_of_calls config calls
  have holds := HoldsTimes.of_calls config calls
  exact holds.takesConfiguredTime_iff times idle atRest inRange.shootVolts_pos.ne'

/-- The settings of `config.lua`, with a shorter warm-up of a fifth of a second. -/
def shortWarmUp : Config Rat :=
  ⟨fun _ sym =>
    if sym = "period" then some 20
    else if sym = "warmup_time" then some 0.2
    else if sym = "shoot_time" then some 0.8
    else some 12⟩

theorem configuredTimes_shortWarmUp : ConfiguredTimes shortWarmUp shortWarmUp 20 200 800 := by
  apply ConfiguredTimes.of_exact <;> decide +kernel

/-- After ten periods of such a warm-up the eleventh call does not feed. -/
theorem short_warm_up_takes_longer :
    ¬ ∀ (config : Config Rat) (calls : List (Call Rat)) (p w s : Int),
      ConfiguredTimes config (lastConfig config calls) p w s →
        (calls.foldl perform (create config)).state = .idle →
          (calls.foldl perform (create config)).SecondaryAtRest →
            (calls.foldl perform (create config)).TakesConfiguredTime ((w + s) / p) (w / p) := by
  intro always
  have configured := always shortWarmUp [] 20 200 800 configuredTimes_shortWarmUp rfl ⟨rfl, rfl⟩
  exact absurd (configured.feeds 10 (by decide) (by decide)).1 (by decide +kernel)

/-- The first shot after a reset that reads a period of a millisecond, in the
middle of an earlier shot, takes a second, of which a fifth is warm-up. -/
theorem shot_takes_configured_time_of_short_period :
    let calls : List (Call Rat) := [.shoot, .process, .process, .reset .bench, .process]
    (calls.foldl perform (create shortWarmUp)).TakesConfiguredTime 1000 200 := by
  intro calls
  have times : ConfiguredTimes shortWarmUp (lastConfig shortWarmUp calls) 1 200 800 := by
    apply ConfiguredTimes.of_exact <;> decide +kernel
  exact (shot_takes_configured_time_iff shortWarmUp calls times (by decide +kernel)
    ⟨by decide +kernel, by decide +kernel⟩).mpr (by decide)

end Shooter

end RobotFirmware
