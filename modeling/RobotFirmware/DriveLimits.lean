import RobotFirmware.NormalisedDrive
import RobotFirmware.Runs

/-!
# Limits of normalised driving

The speed is brought into the range from -1 to 1 before it is limited, the
rotation is not: what is passed to `drive` stays within the configured maximum
only as long as the limiter of the rotation holds it back.
-/

namespace RobotFirmware

namespace Drivetrain

open Runs SlewRate

variable {K : Type*} [Field K]

/-- A call of `driveNormalized` with the reading of the clock. -/
structure Call (K : Type*) where
  now : K
  speed : K
  rotation : K

/-- The arguments of a call. -/
def Call.arguments (call : Call K) : K × K :=
  (call.speed, call.rotation)

/-- The same calls, one every second. -/
def everySecond (start : K) : List (Call K) → List (Call K)
  | [] => []
  | call :: rest => { call with now := start + 1 } :: everySecond (start + 1) rest

theorem arguments_everySecond (start : K) (calls : List (Call K)) :
    (everySecond start calls).map Call.arguments = calls.map Call.arguments := by
  induction calls generalizing start with
  | nil => rfl
  | cons call rest ih =>
      rw [everySecond, List.map_cons, ih, List.map_cons]
      rfl

variable [LinearOrder K]

theorem isChain_everySecond [IsStrictOrderedRing K] (start : K) (calls : List (Call K)) :
    (start :: (everySecond start calls).map Call.now).IsChain (· ≤ ·) := by
  induction calls generalizing start with
  | nil => simp [everySecond]
  | cons call rest ih =>
      rw [everySecond, List.map_cons, List.isChain_cons_cons]
      exact ⟨le_add_of_nonneg_right zero_le_one, ih (start + 1)⟩

/-- What was passed to `drive` last is within the configured limits. -/
def InLimits (drivetrain : Drivetrain K) : Prop :=
  |drivetrain.setPoint.xSpeed| ≤ drivetrain.maxSpeed ∧
    |drivetrain.setPoint.rot| ≤ drivetrain.maxAngularSpeed

/-- There is no rotation, or on neither side of the range from -1 to 1 a call
asks for a rotation outside that its limiter can reach. -/
def HoldsRotation (drivetrain : Drivetrain K) (call : Call K) : Prop :=
  let target := drivetrain.rotationTarget call.rotation
  let reach := 3.0 * (call.now - drivetrain.rotLimiter.prevTime)
  drivetrain.maxAngularSpeed = 0 ∨
    (target ≤ 1 ∨ drivetrain.rotLimiter.prevVal + reach ≤ 1) ∧
      (-1 ≤ target ∨ -1 ≤ drivetrain.rotLimiter.prevVal - reach)

instance (drivetrain : Drivetrain K) (call : Call K) : Decidable (drivetrain.HoldsRotation call) :=
  inferInstanceAs (Decidable (_ ∨ _))

theorem abs_rotationTarget [IsStrictOrderedRing K] (drivetrain : Drivetrain K) (rotation : K) :
    |drivetrain.rotationTarget rotation| = |rotation * drivetrain.rotationThrottle| := by
  rw [rotationTarget]
  split <;> simp

/-- A rotation between -1 and 1 is held whatever the limiter holds. -/
theorem holdsRotation_of_abs_le [IsStrictOrderedRing K] {config : Config K} {isReal : Bool}
    {expLog : K → K → K} {drivetrain : Drivetrain K} {call : Call K}
    (settings : drivetrain.settings = configured config isReal expLog)
    (inRange : |call.rotation * config.number "drivetrain" "rotation_throttle" 0| ≤ 1) :
    drivetrain.HoldsRotation call := by
  have throttle : drivetrain.rotationThrottle = config.number "drivetrain" "rotation_throttle" 0 :=
    congrArg Settings.rotationThrottle settings
  rw [← throttle, ← abs_rotationTarget] at inRange
  obtain ⟨low, high⟩ := abs_le.mp inRange
  exact .inr ⟨.inl high, .inl low⟩

theorem abs_neg_mul_le_iff [IsStrictOrderedRing K] {value limit : K} (nonneg : 0 ≤ limit) :
    |-value * limit| ≤ limit ↔ limit = 0 ∨ |value| ≤ 1 := by
  rw [abs_mul, abs_neg, abs_of_nonneg nonneg]
  rcases nonneg.eq_or_lt with rfl | positive
  · simp
  · rw [mul_le_iff_le_one_left positive]
    simp [positive.ne']

/-- What the calls keep of a drivetrain whose rotation is held. -/
structure Held (config : Config K) (isReal : Bool) (expLog : K → K → K)
    (drivetrain : Drivetrain K) : Prop where
  settings_eq : drivetrain.settings = configured config isReal expLog
  time_eq : drivetrain.speedLimiter.prevTime = drivetrain.rotLimiter.prevTime
  speed : |drivetrain.speedLimiter.prevVal| ≤ 1
  rotation : drivetrain.maxAngularSpeed = 0 ∨ |drivetrain.rotLimiter.prevVal| ≤ 1

theorem Held.readyAt {config : Config K} {isReal : Bool} {expLog : K → K → K}
    {drivetrain : Drivetrain K} (held : Held config isReal expLog drivetrain) {now : K}
    (forward : drivetrain.rotLimiter.prevTime ≤ now) :
    ReadyAt config isReal expLog now drivetrain :=
  ⟨held.settings_eq, held.time_eq.trans_le forward, forward⟩

theorem held_create [IsStrictOrderedRing K] (config : Config K) (isReal : Bool)
    (expLog : K → K → K) (now : K) :
    Held config isReal expLog (create config isReal expLog now) := by
  refine ⟨rfl, rfl, ?_, .inr ?_⟩ <;> simp [create]

variable [FloorRing K]

def perform (drivetrain : Drivetrain K) (call : Call K) : Drivetrain K :=
  drivetrain.driveNormalized call.now call.speed call.rotation

theorem settings_of_mem_steps (config : Config K) (isReal : Bool) (expLog : K → K → K) (start : K)
    (calls : List (Call K)) :
    ∀ step ∈ steps perform (create config isReal expLog start) calls,
      step.1.settings = configured config isReal expLog := by
  refine (invariant_of_steps perform
    (fun drivetrain => drivetrain.settings = configured config isReal expLog) (fun _ _ => True)
    (fun _ _ kept _ => kept) ?_ fun _ _ => trivial).2
  exact settings_create config isReal expLog start

variable [IsStrictOrderedRing K] {config : Config K} {isReal : Bool} {expLog : K → K → K}
  {drivetrain : Drivetrain K}

theorem Held.abs_limitedSpeed_le (held : Held config isReal expLog drivetrain)
    (skewInRange : SkewInRange expLog (config.number "gamepad" "skew_factor" 1)) (speed : K)
    {now : K} (forward : drivetrain.rotLimiter.prevTime ≤ now) :
    |approach drivetrain.speedLimiter.prevVal (drivetrain.speedTarget speed)
      (3.0 * (now - drivetrain.speedLimiter.prevTime))| ≤ 1 := by
  have ready := held.readyAt forward
  have nonneg : 0 ≤ 3.0 * (now - drivetrain.speedLimiter.prevTime) :=
    mul_nonneg (by norm_num) (sub_nonneg.mpr ready.speedTime)
  exact abs_approach_le nonneg held.speed (abs_speedTarget_le ready.speedRange_eq skewInRange speed)

theorem Held.inLimits_perform_iff (held : Held config isReal expLog drivetrain)
    (speedNonneg : 0 ≤ config.number "drivetrain" "max_speed" 0)
    (angularNonneg : 0 ≤ config.number "drivetrain" "max_angular_speed" 0)
    (skewInRange : SkewInRange expLog (config.number "gamepad" "skew_factor" 1)) {call : Call K}
    (forward : drivetrain.rotLimiter.prevTime ≤ call.now) :
    (drivetrain.perform call).InLimits ↔ drivetrain.HoldsRotation call := by
  have ready := held.readyAt forward
  have maxSpeed : 0 ≤ drivetrain.maxSpeed := speedNonneg.trans_eq ready.maxSpeed_eq.symm
  have maxAngularSpeed : 0 ≤ drivetrain.maxAngularSpeed :=
    angularNonneg.trans_eq ready.maxAngularSpeed_eq.symm
  have nonneg : 0 ≤ 3.0 * (call.now - drivetrain.rotLimiter.prevTime) :=
    mul_nonneg (by norm_num) (sub_nonneg.mpr forward)
  have speed := held.abs_limitedSpeed_le skewInRange call.speed forward
  rw [perform, ready.driveNormalized_eq]
  simp only [InLimits, abs_neg_mul_le_iff maxSpeed, abs_neg_mul_le_iff maxAngularSpeed]
  rw [abs_approach_le_iff nonneg, and_iff_right (.inr speed), HoldsRotation]
  constructor
  · exact Or.imp_right fun stays => ⟨stays.above, stays.below⟩
  · rintro (still | ⟨above, below⟩)
    · exact .inl still
    · -- What the limiter holds is in the range already.
      exact held.rotation.imp_right fun inRange =>
        ⟨inRange.trans (le_add_of_nonneg_right nonneg), above, below⟩

theorem Held.perform (held : Held config isReal expLog drivetrain)
    (angularNonneg : 0 ≤ config.number "drivetrain" "max_angular_speed" 0)
    (skewInRange : SkewInRange expLog (config.number "gamepad" "skew_factor" 1)) {call : Call K}
    (forward : drivetrain.rotLimiter.prevTime ≤ call.now)
    (inLimits : (drivetrain.perform call).InLimits) :
    Held config isReal expLog (drivetrain.perform call) := by
  have ready := held.readyAt forward
  have maxAngularSpeed : 0 ≤ drivetrain.maxAngularSpeed :=
    angularNonneg.trans_eq ready.maxAngularSpeed_eq.symm
  have speed := held.abs_limitedSpeed_le skewInRange call.speed forward
  have settings : (drivetrain.perform call).settings = configured config isReal expLog :=
    held.settings_eq
  have rotation := inLimits.2
  rw [Drivetrain.perform, ready.driveNormalized_eq] at settings rotation ⊢
  exact ⟨settings, rfl, speed, (abs_neg_mul_le_iff maxAngularSpeed).mp rotation⟩

/-- In a second the limiter can go from any value in the range to any other. -/
theorem Held.abs_le_of_holdsRotation (held : Held config isReal expLog drivetrain) {call : Call K}
    (second : call.now = drivetrain.rotLimiter.prevTime + 1)
    (rotates : config.number "drivetrain" "max_angular_speed" 0 ≠ 0)
    (holds : drivetrain.HoldsRotation call) :
    |call.rotation * config.number "drivetrain" "rotation_throttle" 0| ≤ 1 := by
  have throttle : drivetrain.rotationThrottle = config.number "drivetrain" "rotation_throttle" 0 :=
    congrArg Settings.rotationThrottle held.settings_eq
  have rotates : drivetrain.maxAngularSpeed ≠ 0 := by
    rwa [(held.readyAt le_rfl).maxAngularSpeed_eq]
  have reach : 3.0 * (call.now - drivetrain.rotLimiter.prevTime) = 3 := by
    rw [second, add_sub_cancel_left]
    norm_num
  obtain ⟨low, high⟩ := abs_le.mp (held.rotation.resolve_left rotates)
  rw [HoldsRotation, reach] at holds
  obtain ⟨above, below⟩ := holds.resolve_left rotates
  rw [← throttle, ← abs_rotationTarget, abs_le]
  exact ⟨below.resolve_right (by linarith), above.resolve_right (by linarith)⟩

theorem Held.forall_abs_le_of_everySecond
    (speedNonneg : 0 ≤ config.number "drivetrain" "max_speed" 0)
    (angularNonneg : 0 ≤ config.number "drivetrain" "max_angular_speed" 0)
    (skewInRange : SkewInRange expLog (config.number "gamepad" "skew_factor" 1))
    (rotates : config.number "drivetrain" "max_angular_speed" 0 ≠ 0)
    (held : Held config isReal expLog drivetrain) (calls : List (Call K))
    (inLimits : ∀ step ∈ steps Drivetrain.perform drivetrain
      (everySecond drivetrain.rotLimiter.prevTime calls), (step.1.perform step.2).InLimits) :
    ∀ call ∈ calls, |call.rotation * config.number "drivetrain" "rotation_throttle" 0| ≤ 1 := by
  induction calls generalizing drivetrain with
  | nil => simp
  | cons call rest ih =>
      rw [everySecond, steps_cons, List.forall_mem_cons] at inLimits
      obtain ⟨here, later⟩ := inLimits
      have forward : drivetrain.rotLimiter.prevTime ≤ drivetrain.rotLimiter.prevTime + 1 :=
        le_add_of_nonneg_right zero_le_one
      have holds :=
        (held.inLimits_perform_iff speedNonneg angularNonneg skewInRange forward).mp here
      have next := held.perform angularNonneg skewInRange forward here
      rw [List.forall_mem_cons]
      have asked := held.abs_le_of_holdsRotation rfl rotates holds
      exact ⟨asked, ih next later⟩

theorem inLimits_steps_iff {start : K} {calls : List (Call K)}
    (speedNonneg : 0 ≤ config.number "drivetrain" "max_speed" 0)
    (angularNonneg : 0 ≤ config.number "drivetrain" "max_angular_speed" 0)
    (skewInRange : SkewInRange expLog (config.number "gamepad" "skew_factor" 1))
    (clock : (start :: calls.map Call.now).IsChain (· ≤ ·)) :
    (∀ step ∈ steps perform (create config isReal expLog start) calls,
        (step.1.perform step.2).InLimits) ↔
      ∀ step ∈ steps perform (create config isReal expLog start) calls,
        step.1.HoldsRotation step.2 := by
  refine forall_steps_iff perform (Held config isReal expLog)
    (fun drivetrain call => drivetrain.rotLimiter.prevTime ≤ call.now)
    (fun drivetrain call => (drivetrain.perform call).InLimits) HoldsRotation ?_ ?_
    (held_create config isReal expLog start) ?_
  · intro drivetrain call held forward
    exact held.inLimits_perform_iff speedNonneg angularNonneg skewInRange forward
  · intro drivetrain call held forward inLimits
    exact held.perform angularNonneg skewInRange forward inLimits
  · exact steps_of_isChain perform (fun drivetrain => drivetrain.rotLimiter.prevTime) Call.now
      (fun _ _ => rfl) clock

/-- A run that asks for no rotation outside the range, or that has no rotation,
stays within the limits. -/
theorem inLimits_of_abs_le {start : K} {calls : List (Call K)}
    (speedNonneg : 0 ≤ config.number "drivetrain" "max_speed" 0)
    (angularNonneg : 0 ≤ config.number "drivetrain" "max_angular_speed" 0)
    (skewInRange : SkewInRange expLog (config.number "gamepad" "skew_factor" 1))
    (clock : (start :: calls.map Call.now).IsChain (· ≤ ·))
    (inRange : config.number "drivetrain" "max_angular_speed" 0 = 0 ∨ ∀ call ∈ calls,
      |call.rotation * config.number "drivetrain" "rotation_throttle" 0| ≤ 1) :
    ∀ step ∈ steps perform (create config isReal expLog start) calls,
      (step.1.perform step.2).InLimits := by
  refine (inLimits_steps_iff speedNonneg angularNonneg skewInRange clock).mpr fun step member => ?_
  have settings := settings_of_mem_steps config isReal expLog start calls step member
  rcases inRange with still | inRange
  · exact .inl ((congrArg Settings.maxAngularSpeed settings).trans still)
  · exact holdsRotation_of_abs_le settings (inRange step.2 (mem_of_mem_steps member))

/-- **Limits of normalised driving.** Along every sequence of calls with a clock
that does not run backwards, what is passed to `drive` stays within both
configured maxima if and only if no call asks for a rotation outside the range
from -1 to 1 that its limiter can reach.  It stays within them whatever the
clock reads if and only if no call asks for a rotation outside this range, as
none does whose argument is in it. -/
theorem normalised_driving_in_limits_iff (config : Config K) (isReal : Bool)
    (expLog : K → K → K) (start : K) (calls : List (Call K))
    (speedNonneg : 0 ≤ config.number "drivetrain" "max_speed" 0)
    (angularNonneg : 0 ≤ config.number "drivetrain" "max_angular_speed" 0)
    (throttleNonneg : 0 ≤ config.number "drivetrain" "rotation_throttle" 0)
    (throttleLe : config.number "drivetrain" "rotation_throttle" 0 ≤ 1)
    (skewInRange : SkewInRange expLog (config.number "gamepad" "skew_factor" 1))
    (clock : (start :: calls.map Call.now).IsChain (· ≤ ·)) :
    let taken := steps perform (create config isReal expLog start) calls
    ((∀ step ∈ taken, (step.1.perform step.2).InLimits) ↔
        ∀ step ∈ taken, step.1.HoldsRotation step.2) ∧
      ((∀ start' calls', calls'.map Call.arguments = calls.map Call.arguments →
          (start' :: calls'.map Call.now).IsChain (· ≤ ·) →
            ∀ step ∈ steps perform (create config isReal expLog start') calls',
              (step.1.perform step.2).InLimits) ↔
        config.number "drivetrain" "max_angular_speed" 0 = 0 ∨
          ∀ call ∈ calls,
            |call.rotation * config.number "drivetrain" "rotation_throttle" 0| ≤ 1) ∧
        ((∀ call ∈ calls, |call.rotation| ≤ 1) →
          ∀ step ∈ taken, (step.1.perform step.2).InLimits) := by
  refine ⟨inLimits_steps_iff speedNonneg angularNonneg skewInRange clock, ⟨?_, ?_⟩, ?_⟩
  · intro always
    refine or_iff_not_imp_left.mpr fun rotates => ?_
    have held := held_create config isReal expLog 0
    exact held.forall_abs_le_of_everySecond speedNonneg angularNonneg skewInRange rotates calls
      (always 0 _ (arguments_everySecond 0 calls) (isChain_everySecond 0 calls))
  · intro inRange start' calls' same clock'
    refine inLimits_of_abs_le speedNonneg angularNonneg skewInRange clock' (inRange.imp_right ?_)
    intro inRange call' member'
    have passed : call'.arguments ∈ calls.map Call.arguments := by
      rw [← same]
      exact List.mem_map_of_mem member'
    obtain ⟨call, member, argumentsEq⟩ := List.mem_map.mp passed
    rw [← show call.rotation = call'.rotation from congrArg Prod.snd argumentsEq]
    exact inRange call member
  · intro inRange
    refine inLimits_of_abs_le speedNonneg angularNonneg skewInRange clock (.inr ?_)
    intro call member
    rw [abs_mul, abs_of_nonneg throttleNonneg]
    exact mul_le_one₀ (inRange call member) throttleNonneg throttleLe

/-- The limits of the bench are 1, and its sticks are not skewed. -/
theorem skewInRange_bench : SkewInRange (fun distance _ => distance) (1 : Rat) :=
  fun _ positive le => ⟨positive.le, le⟩

/-- A second after the start, a rotation of five drives with three. -/
theorem rotation_exceeds_limit :
    ¬ ∀ (config : Config Rat) (isReal : Bool) (expLog : Rat → Rat → Rat) (start : Rat)
        (calls : List (Call Rat)),
      0 ≤ config.number "drivetrain" "max_speed" 0 →
        0 ≤ config.number "drivetrain" "max_angular_speed" 0 →
          0 ≤ config.number "drivetrain" "rotation_throttle" 0 →
            config.number "drivetrain" "rotation_throttle" 0 ≤ 1 →
              0 < config.number "gamepad" "skew_factor" 1 →
                SkewInRange expLog (config.number "gamepad" "skew_factor" 1) →
                  (start :: calls.map Call.now).IsChain (· ≤ ·) →
                    ∀ step ∈ steps perform (create config isReal expLog start) calls,
                      (step.1.perform step.2).InLimits := by
  intro limited
  have limits := limited .bench false (fun distance _ => distance) 0 [⟨1, 0, 5⟩]
    (by decide +kernel) (by decide +kernel) (by decide +kernel) (by decide +kernel)
    (by decide +kernel) skewInRange_bench (by simp)
    (create .bench false (fun distance _ => distance) 0, ⟨1, 0, 5⟩) (by simp)
  exact absurd limits.2 (by decide +kernel)

/-- Calls that ask for a rotation of five, so early that the limiter has not
reached the range's end. -/
def earlyTurns : List (Call Rat) :=
  [⟨0.1, 1, 5⟩, ⟨0.2, 0, 5⟩, ⟨0.2, 1, 5⟩, ⟨0.3, -1, 5⟩, ⟨0.9, 0, 0.5⟩, ⟨1, 0, 5⟩]

/-- The limiter goes to nine tenths, back to a half and to eight tenths; with
one second between the calls the first would be out of the limits. -/
theorem normalised_driving_in_limits_of_early_turns :
    (∀ step ∈ steps perform (create Config.bench false (fun distance _ => distance) 0) earlyTurns,
        (step.1.perform step.2).InLimits) ∧
      ¬ ∀ start' calls', calls'.map Call.arguments = earlyTurns.map Call.arguments →
          (start' :: calls'.map Call.now).IsChain (· ≤ ·) →
            ∀ step ∈ steps perform (create Config.bench false (fun distance _ => distance) start')
                calls', (step.1.perform step.2).InLimits := by
  obtain ⟨onTime, always, -⟩ := normalised_driving_in_limits_iff .bench false
    (fun distance _ => distance) 0 earlyTurns (by decide +kernel) (by decide +kernel)
    (by decide +kernel) (by decide +kernel) skewInRange_bench (by decide +kernel)
  exact ⟨onTime.mpr (by decide +kernel), fun holds => absurd (always.mp holds) (by decide +kernel)⟩

end Drivetrain

end RobotFirmware
