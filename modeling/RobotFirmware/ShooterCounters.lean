import Mathlib.Tactic.NormNum
import RobotFirmware.Runs
import RobotFirmware.Shooter

/-!
# The arithmetic of the shooter

The counters of the shooter are of type `int`, and `shoot` divides by the
period that the last `reset` has read.  `config.lua` asks for a period greater
than zero, but a period below a millisecond truncates to zero.  The times are
converted from products of doubles, which are rounded: two times that are
together below the limit of the type may reach it after the conversion.  For
all other periods and times no computation of a run leaves the range of the
type.
-/

namespace RobotFirmware

/-- The values of the C++ type `int`. -/
def FitsInt (value : Int) : Prop :=
  -2 ^ 31 ≤ value ∧ value < 2 ^ 31

namespace Config

variable {K : Type*} [Field K] [LinearOrder K] [FloorRing K]

/-- The numbers that `config.lua` admits for the shooter. -/
structure Admitted (config : Config K) : Prop where
  period_pos : 0 < config.number "engine" "period" 0
  period_lt : config.number "engine" "period" 0 < ((2 ^ 31 : Int) : K)
  warmup_nonneg : 0 ≤ config.number "shooter" "warmup_time" 0
  shoot_nonneg : 0 ≤ config.number "shooter" "shoot_time" 0
  times_lt : 1000.0 * (config.number "shooter" "warmup_time" 0 +
    config.number "shooter" "shoot_time" 0) < ((2 ^ 31 : Int) : K)

theorem toInt_range [IsStrictOrderedRing K] {value : K} (nonneg : 0 ≤ value) {limit : Int}
    (less : value < (limit : K)) : 0 ≤ toInt value ∧ toInt value < limit := by
  rw [toInt, if_pos nonneg]
  exact ⟨Int.floor_nonneg.mpr nonneg, Int.floor_lt.mpr less⟩

theorem Admitted.period_range [IsStrictOrderedRing K] {config : Config K}
    (admitted : config.Admitted) :
    0 ≤ config.integer "engine" "period" 0 ∧ config.integer "engine" "period" 0 < 2 ^ 31 := by
  rw [integer, Int.cast_zero]
  exact toInt_range admitted.period_pos.le admitted.period_lt

/-- A time below the limit is converted with an error of a half at most, and
what is cut off makes it smaller. -/
theorem toInt_double_range [IsStrictOrderedRing K] {value : K} (nonneg : 0 ≤ value)
    (less : value < ((2 ^ 31 : Int) : K)) :
    0 ≤ toInt (double value) ∧ (toInt (double value) : K) ≤ value + 1 / 2 := by
  have small : |value| < 2 ^ 53 := by
    rw [abs_of_nonneg nonneg]
    refine less.trans_le ?_
    push_cast
    norm_num
  have near := (abs_le.mp (BinaryRounding.abs_roundToPrecision_sub_le_half small)).2
  have rounded : 0 ≤ double value := BinaryRounding.roundToPrecision_nonneg 53 nonneg
  rw [toInt, if_pos rounded]
  refine ⟨Int.floor_nonneg.mpr rounded, (Int.floor_le _).trans ?_⟩
  exact sub_le_iff_le_add'.mp near

theorem Admitted.times_range [IsStrictOrderedRing K] {config : Config K}
    (admitted : config.Admitted) :
    let warmTimeMs := toInt (double (1000.0 * config.number "shooter" "warmup_time" 0))
    let shootTimeMs := toInt (double (1000.0 * config.number "shooter" "shoot_time" 0))
    0 ≤ warmTimeMs ∧ 0 ≤ shootTimeMs ∧ warmTimeMs + shootTimeMs ≤ 2 ^ 31 := by
  have thousand : (0 : K) ≤ 1000.0 := by positivity
  have warmup := mul_nonneg thousand admitted.warmup_nonneg
  have shoot := mul_nonneg thousand admitted.shoot_nonneg
  have together := admitted.times_lt
  rw [mul_add] at together
  obtain ⟨warmNonneg, warmLe⟩ := toInt_double_range warmup (by linarith)
  obtain ⟨shootNonneg, shootLe⟩ := toInt_double_range shoot (by linarith)
  refine ⟨warmNonneg, shootNonneg, Int.lt_add_one_iff.mp ?_⟩
  rw [← Int.cast_lt (R := K)]
  push_cast at together ⊢
  linarith

end Config

namespace Shooter

open Runs

variable {K : Type*}

/-- The call starts a shot. -/
def StartsShot (shooter : Shooter K) : Call K → Prop
  | .shoot => shooter.state = .idle
  | _ => False

/-- A shot may start: the period is a millisecond or more, and the rounded times
have not reached the limit of `int`. -/
structure MayStart (shooter : Shooter K) : Prop where
  period : 1 ≤ shooter.periodMs
  totalTime : shooter.warmTimeMs + shooter.shootTimeMs ≠ 2 ^ 31

/-- The ranges in which the counters and times of a shooter stay. -/
structure CountersInRange (shooter : Shooter K) : Prop where
  period : 0 ≤ shooter.periodMs ∧ shooter.periodMs < 2 ^ 31
  warmTime : 0 ≤ shooter.warmTimeMs
  shootTime : 0 ≤ shooter.shootTimeMs
  totalTime : shooter.warmTimeMs + shooter.shootTimeMs ≤ 2 ^ 31
  shot : shooter.state = .shooting →
    1 ≤ shooter.tick ∧ 0 ≤ shooter.delay ∧ shooter.delay + shooter.tick < 2 ^ 31

theorem tdiv_range {dividend divisor : Int} (nonneg : 0 ≤ dividend) (positive : 1 ≤ divisor) :
    0 ≤ dividend.tdiv divisor ∧ dividend.tdiv divisor ≤ dividend := by
  rw [Int.tdiv_eq_ediv_of_nonneg nonneg]
  exact ⟨Int.ediv_nonneg nonneg (by omega), Int.ediv_le_self divisor nonneg⟩

theorem CountersInRange.shoot {shooter : Shooter K} (inRange : shooter.CountersInRange)
    (idle : shooter.state = .idle) (mayStart : shooter.MayStart) :
    shooter.shoot.CountersInRange := by
  obtain ⟨period, warmTime, shootTime, totalTime, -⟩ := inRange
  obtain ⟨positive, below⟩ := mayStart
  obtain ⟨nonneg, less⟩ := tdiv_range (Int.add_nonneg warmTime shootTime) positive
  simp only [Shooter.shoot, idle, ne_eq, not_true_eq_false, ↓reduceIte]
  refine ⟨period, warmTime, shootTime, totalTime, fun _ => ⟨?_, le_rfl, ?_⟩⟩
  · exact positive.trans (le_max_left _ _)
  · dsimp only
    omega

variable [Field K] [LinearOrder K]

theorem CountersInRange.process {shooter : Shooter K} (inRange : shooter.CountersInRange) :
    shooter.process.CountersInRange := by
  obtain ⟨period, warmTime, shootTime, totalTime, shot⟩ := inRange
  cases state : shooter.state with
  | idle =>
      rw [process_idle state]
      exact ⟨period, warmTime, shootTime, totalTime, by simp [state]⟩
  | loading =>
      rw [process_loading state]
      exact ⟨period, warmTime, shootTime, totalTime, by simp [state]⟩
  | shooting =>
      obtain ⟨tick, delay, sum⟩ := shot state
      rw [process_shooting state]
      refine ⟨period, warmTime, shootTime, totalTime, fun shooting => ?_⟩
      dsimp only at shooting ⊢
      split at shooting
      · cases shooting
      · omega

variable [FloorRing K]

/-- The `int` values that a call computes. -/
def computed (shooter : Shooter K) : Call K → List Int
  | .shoot =>
      if shooter.state = .idle then
        let totalTimeMs := shooter.warmTimeMs + shooter.shootTimeMs
        [totalTimeMs, totalTimeMs.tdiv shooter.periodMs, shooter.warmTimeMs.tdiv shooter.periodMs]
      else
        []
  | .process => if shooter.state = .shooting then [shooter.delay + 1, shooter.tick - 1] else []
  | .reset config => [config.integer "engine" "period" 0]
  | _ => []

/-- What a call should do with the counters: it divides by no zero and leaves
no `int`, and a shot starts with, and keeps as long as it runs, a tick that is
still to come and the sum of its two counters. -/
structure CountsSafely (shooter : Shooter K) (call : Call K) : Prop where
  divides : shooter.StartsShot call → shooter.periodMs ≠ 0
  fits : ∀ value ∈ shooter.computed call, FitsInt value
  starts : shooter.StartsShot call → 1 ≤ (shooter.perform call).tick
  running : (shooter.perform call).state = .shooting → 1 ≤ (shooter.perform call).tick
  constant : shooter.state = .shooting →
    (shooter.perform call).delay + (shooter.perform call).tick = shooter.delay + shooter.tick

/-- A reset reads an admitted configuration. -/
def Call.Admitted : Call K → Prop
  | .reset config => config.Admitted
  | _ => True

theorem CountersInRange.perform [IsStrictOrderedRing K] {shooter : Shooter K}
    (inRange : shooter.CountersInRange) {call : Call K} (admitted : call.Admitted)
    (mayStart : shooter.StartsShot call → shooter.MayStart) :
    (shooter.perform call).CountersInRange := by
  obtain ⟨period, warmTime, shootTime, totalTime, shot⟩ := inRange
  cases call with
  | shoot =>
      by_cases idle : shooter.state = .idle
      · exact CountersInRange.shoot ⟨period, warmTime, shootTime, totalTime, shot⟩ idle
          (mayStart idle)
      · simp only [Shooter.perform, Shooter.shoot, ne_eq, idle, not_false_eq_true, ↓reduceIte]
        exact ⟨period, warmTime, shootTime, totalTime, shot⟩
  | intake =>
      simp only [Shooter.perform, intake]
      split
      · exact ⟨period, warmTime, shootTime, totalTime, shot⟩
      · exact ⟨period, warmTime, shootTime, totalTime, by simp⟩
  | stop => exact ⟨period, warmTime, shootTime, totalTime, by simp [Shooter.perform, stop]⟩
  | reset config =>
      exact ⟨Config.Admitted.period_range admitted, warmTime, shootTime, totalTime,
        by simp [Shooter.perform, reset]⟩
  | setShootLevel level => exact ⟨period, warmTime, shootTime, totalTime, shot⟩
  | process => exact CountersInRange.process ⟨period, warmTime, shootTime, totalTime, shot⟩

theorem countersInRange_create [IsStrictOrderedRing K] {config : Config K}
    (admitted : config.Admitted) : (create config).CountersInRange := by
  obtain ⟨warmTime, shootTime, totalTime⟩ := admitted.times_range
  exact ⟨admitted.period_range, warmTime, shootTime, totalTime, by simp [create, reset]⟩

theorem CountersInRange.fits [IsStrictOrderedRing K] {shooter : Shooter K}
    (inRange : shooter.CountersInRange) {call : Call K} (admitted : call.Admitted)
    (mayStart : shooter.StartsShot call → shooter.MayStart) :
    ∀ value ∈ shooter.computed call, FitsInt value := by
  obtain ⟨period, warmTime, shootTime, totalTime, shot⟩ := inRange
  have fits_of_nonneg {value : Int} (nonneg : 0 ≤ value) (less : value < 2 ^ 31) :
      FitsInt value := ⟨by omega, less⟩
  cases call with
  | shoot =>
      by_cases idle : shooter.state = .idle
      · have total := Int.add_nonneg warmTime shootTime
        obtain ⟨positive, below⟩ := mayStart idle
        obtain ⟨ticks, ticksLe⟩ := tdiv_range total positive
        obtain ⟨warm, warmLe⟩ := tdiv_range warmTime positive
        simp only [computed, idle, ↓reduceIte, List.forall_mem_cons]
        refine ⟨fits_of_nonneg total (by omega), fits_of_nonneg ticks (by omega),
          fits_of_nonneg warm (by omega), by simp⟩
      · simp [computed, idle]
  | process =>
      by_cases shooting : shooter.state = .shooting
      · obtain ⟨tick, delay, sum⟩ := shot shooting
        simp only [computed, shooting, ↓reduceIte, List.forall_mem_cons]
        exact ⟨fits_of_nonneg (by omega) (by omega), fits_of_nonneg (by omega) (by omega), by simp⟩
      · simp [computed, shooting]
  | reset config =>
      obtain ⟨nonneg, less⟩ := Config.Admitted.period_range admitted
      simp only [computed, List.forall_mem_cons]
      exact ⟨fits_of_nonneg nonneg less, by simp⟩
  | intake => simp [computed]
  | stop => simp [computed]
  | setShootLevel level => simp [computed]

/-- While a shot runs, what one counter loses the other gains. -/
theorem counters_constant {shooter : Shooter K} (shooting : shooter.state = .shooting)
    (call : Call K) :
    (shooter.perform call).delay + (shooter.perform call).tick =
      shooter.delay + shooter.tick := by
  cases call with
  | process =>
      rw [perform, process_shooting shooting]
      dsimp only
      omega
  | shoot => simp [perform, shoot, shooting]
  | intake => simp [perform, intake, shooting]
  | stop => rfl
  | reset config => rfl
  | setShootLevel level => rfl

theorem CountersInRange.countsSafely_iff [IsStrictOrderedRing K] {shooter : Shooter K}
    (inRange : shooter.CountersInRange) {call : Call K} (admitted : call.Admitted) :
    shooter.CountsSafely call ↔ (shooter.StartsShot call → shooter.MayStart) := by
  have started (starts : shooter.StartsShot call) :
      call = .shoot ∧ shooter.state = .idle := by
    cases call with
    | shoot => exact ⟨rfl, starts⟩
    | _ => exact False.elim starts
  have period := inRange.period
  constructor
  · intro safe starts
    obtain ⟨rfl, idle⟩ := started starts
    have divides := safe.divides starts
    have total := (safe.fits (shooter.warmTimeMs + shooter.shootTimeMs) (by simp [computed, idle])).2
    exact ⟨by omega, by omega⟩
  · intro mayStart
    have after := inRange.perform admitted mayStart
    refine ⟨fun starts => ?_, inRange.fits admitted mayStart, fun starts => ?_,
      fun shooting => (after.shot shooting).1, fun shooting => counters_constant shooting call⟩
    · have := (mayStart starts).period
      omega
    · obtain ⟨rfl, idle⟩ := started starts
      exact (after.shot (by simp [Shooter.perform, Shooter.shoot, idle])).1

/-- The conversions of the constructor stay in the range of `int`. -/
def ConvertsSafely (config : Config K) : Prop :=
  ∀ value ∈ [(create config).warmTimeMs, (create config).shootTimeMs, (create config).periodMs],
    FitsInt value

theorem convertsSafely_iff [IsStrictOrderedRing K] {config : Config K}
    (admitted : config.Admitted) :
    ConvertsSafely config ↔
      (create config).warmTimeMs ≠ 2 ^ 31 ∧ (create config).shootTimeMs ≠ 2 ^ 31 := by
  obtain ⟨⟨period, periodLt⟩, warmTime, shootTime, totalTime, -⟩ := countersInRange_create admitted
  simp only [ConvertsSafely, FitsInt, List.forall_mem_cons]
  constructor
  · rintro ⟨warm, shoot, -⟩
    omega
  · rintro ⟨warm, shoot⟩
    exact ⟨by omega, by omega, by omega, by simp⟩

/-- **Arithmetic of the shooter.** In a run whose configurations are all
admitted, the conversions and the counters are safe if and only if neither time
is rounded up to the limit of `int`, and every shot that is started finds a
period of a millisecond or more and times that have not reached this limit
together. -/
theorem counters_safe_iff [IsStrictOrderedRing K] {config : Config K} {calls : List (Call K)}
    (admitted : config.Admitted) (admittedCalls : ∀ call ∈ calls, call.Admitted) :
    (ConvertsSafely config ∧
        ∀ taken ∈ steps perform (create config) calls, taken.1.CountsSafely taken.2) ↔
      ((create config).warmTimeMs ≠ 2 ^ 31 ∧ (create config).shootTimeMs ≠ 2 ^ 31) ∧
        ∀ taken ∈ steps perform (create config) calls,
          taken.1.StartsShot taken.2 → taken.1.MayStart := by
  refine and_congr (convertsSafely_iff admitted) ?_
  refine forall_steps_iff perform CountersInRange (fun _ call => call.Admitted) CountsSafely
    (fun shooter call => shooter.StartsShot call → shooter.MayStart) ?_ ?_
    (countersInRange_create admitted) ?_
  · intro shooter call inRange admitted
    exact inRange.countsSafely_iff admitted
  · intro shooter call inRange admitted safe
    exact inRange.perform admitted ((inRange.countsSafely_iff admitted).mp safe)
  · intro taken member
    exact admittedCalls taken.2 (mem_of_mem_steps member)

/-- A period of half a millisecond is greater than zero. -/
def halfPeriod : Config Rat :=
  ⟨fun _ sym => if sym = "period" then some 0.5 else some 1⟩

theorem admitted_halfPeriod : halfPeriod.Admitted := by
  refine ⟨?_, ?_, ?_, ?_, ?_⟩ <;> decide +kernel

/-- The first shot with such a period divides by zero. -/
theorem shot_divides_by_zero :
    ¬ ∀ (config : Config Rat) (calls : List (Call Rat)), config.Admitted →
      (∀ call ∈ calls, call.Admitted) →
        ConvertsSafely config ∧
          ∀ taken ∈ steps perform (create config) calls, taken.1.CountsSafely taken.2 := by
  intro safe
  have counts := (safe halfPeriod [.shoot] admitted_halfPeriod (by simp [Call.Admitted])).2
  have divides := (counts (create halfPeriod, .shoot) (by simp)).divides rfl
  exact absurd divides (by decide +kernel)

/-- Nine milliseconds, and a time that is just as much below the limit: both
doubles are a little less, and both products are rounded up. -/
def longTimes : Config Rat :=
  ⟨fun _ sym =>
    if sym = "warmup_time" then some (5188146770730811 / 2 ^ 59)
    else if sym = "shoot_time" then some (4611685999100035 / 2 ^ 31)
    else some 1⟩

theorem admitted_longTimes : longTimes.Admitted := by
  refine ⟨?_, ?_, ?_, ?_, ?_⟩ <;> decide +kernel

/-- The first shot with these times overflows. -/
example : ¬ (create longTimes).CountsSafely .shoot := by
  intro safe
  have fits := safe.fits ((create longTimes).warmTimeMs + (create longTimes).shootTimeMs)
    (List.mem_cons_self ..)
  exact absurd fits.2 (by decide +kernel)

/-- Two shots of two calls each, with a reset between them. -/
theorem counters_safe_of_two_shots :
    (ConvertsSafely Config.bench ∧
        ∀ taken ∈ steps perform (create Config.bench)
            [.shoot, .process, .process, .reset .bench, .shoot, .process, .process],
          taken.1.CountsSafely taken.2) ↔
      ((create Config.bench).warmTimeMs ≠ 2 ^ 31 ∧ (create Config.bench).shootTimeMs ≠ 2 ^ 31) ∧
        ∀ taken ∈ steps perform (create Config.bench)
            [.shoot, .process, .process, .reset .bench, .shoot, .process, .process],
          taken.1.StartsShot taken.2 → taken.1.MayStart := by
  have admitted : Config.bench.Admitted := by
    constructor <;> decide +kernel
  exact counters_safe_iff admitted (by simp [Call.Admitted, admitted])

end Shooter

end RobotFirmware
