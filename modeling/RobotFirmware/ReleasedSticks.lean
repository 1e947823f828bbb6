import RobotFirmware.ActuatorCalls
import RobotFirmware.ParameterSnapshot
import RobotFirmware.TeleopDrive

/-!
# Released sticks

Within the dead zone a stick counts as zero, and zero goes through the gears,
the range and the skew map as zero.  What is left is the memory of the two slew
rate limiters: it is at most one, whatever the sticks did before, and it decays
by three units a second.
-/

namespace RobotFirmware

/-- The clock is read to drive. -/
def BindingCall.reading {K : Type*} : BindingCall K → Option K
  | .drive now _ _ => some now
  | _ => none

/-- The readings of the clock in a callback. -/
def Event.readings {K τ π : Type*} (event : Event K τ π) : List K :=
  event.calls.filterMap BindingCall.reading

/-- All axes are in the range that the driver station reports. -/
def GamepadReading.AxesInRange {K : Type*} [Field K] [LinearOrder K] (pad : GamepadReading K) :
    Prop :=
  ∀ axis, |pad.rawAxis axis| ≤ 1

/-- A callback while Teleop sessions run `teleop.bot`.  A tick makes the calls
that the program makes in some state of a session, or the first of them if
there is a Lua error; no other callback makes a call. -/
def Event.RunsTeleopBot {K τ π : Type*} [Field K] [LinearOrder K] : Event K τ π → Prop
  | .teleopPeriodic pad outcome => pad.AxesInRange ∧
      ∃ (session : TeleopSession K τ) (now : K), outcome.calls <+: (session.respond ⟨pad, now⟩).2
  | event => event.calls = []

/-- A tick of a Teleop session, or the end of the session, some ticks of the
disabled robot and the begin of the next. -/
inductive TeleopAction (K : Type*)
  | tick (input : TeleopInput K)
  | renew (disabledTicks : Nat) (config : Config K)

namespace TeleopAction

variable {K : Type*}

def reading : TeleopAction K → Option K
  | .tick input => some input.now
  | .renew _ _ => none

theorem filterMap_reading_tick (input : TeleopInput K) (rest : List (TeleopAction K)) :
    (tick input :: rest).filterMap reading = input.now :: rest.filterMap reading :=
  rfl

theorem filterMap_reading_renew (disabledTicks : Nat) (config : Config K)
    (rest : List (TeleopAction K)) :
    (renew disabledTicks config :: rest).filterMap reading = rest.filterMap reading :=
  rfl

/-- The controller is connected, and the two sticks that drive are within the
dead zone. -/
def Released [Field K] [LinearOrder K] : TeleopAction K → Prop
  | .tick input => input.pad.connected = true ∧
      |input.pad.rawAxis Parameters.leftStickY| ≤ Parameters.deadZone ∧
        |input.pad.rawAxis Parameters.rightStickX| ≤ Parameters.deadZone
  | .renew _ _ => True

end TeleopAction

namespace Drivetrain

open SlewRate

variable {K : Type*} [Field K] [LinearOrder K]

/-- The limiters hold at most a bound, and have made no calculation after a
given time. -/
structure HoldsAtMost (config : Config K) (isReal : Bool) (expLog : K → K → K) (now bound : K)
    (drivetrain : Drivetrain K) : Prop extends ReadyAt config isReal expLog now drivetrain where
  speed : |drivetrain.speedLimiter.prevVal| ≤ bound
  rot : |drivetrain.rotLimiter.prevVal| ≤ bound

/-- The settings under which neither the sticks nor the limiters are asked for
more than one. -/
structure InUnitRange (expLog : K → K → K) (config : Config K) : Prop where
  skew : SkewInRange expLog (config.number "gamepad" "skew_factor" 1)
  throttle_nonneg : 0 ≤ config.number "drivetrain" "rotation_throttle" 0
  throttle_le : config.number "drivetrain" "rotation_throttle" 0 ≤ 1

namespace HoldsAtMost

variable {config : Config K} {isReal : Bool} {expLog : K → K → K} {now bound : K}
  {drivetrain : Drivetrain K}
  (holds : HoldsAtMost config isReal expLog now bound drivetrain)

include holds

theorem drive (xSpeed rot : K) :
    HoldsAtMost config isReal expLog now bound (drivetrain.drive xSpeed rot) :=
  ⟨⟨holds.settings_eq, holds.speedTime, holds.rotTime⟩, holds.speed, holds.rot⟩

theorem mono {later : K} (forward : now ≤ later) :
    HoldsAtMost config isReal expLog later bound drivetrain :=
  ⟨holds.toReadyAt.mono forward, holds.speed, holds.rot⟩

end HoldsAtMost

theorem rotationTarget_zero {K : Type*} [Field K] (drivetrain : Drivetrain K) :
    drivetrain.rotationTarget 0 = 0 := by
  simp [rotationTarget]

variable [IsStrictOrderedRing K]

theorem abs_rotationTarget_le {drivetrain : Drivetrain K}
    (nonneg : 0 ≤ drivetrain.rotationThrottle) (throttleLe : drivetrain.rotationThrottle ≤ 1)
    {rotation : K} (within : |rotation| ≤ 1) : |drivetrain.rotationTarget rotation| ≤ 1 := by
  have scaled : |rotation * drivetrain.rotationThrottle| ≤ 1 := by
    rw [abs_mul, abs_of_nonneg nonneg]
    exact mul_le_one₀ within nonneg throttleLe
  rw [rotationTarget]
  split
  · rwa [mul_neg_one, abs_neg]
  · exact scaled

namespace HoldsAtMost

variable {config : Config K} {isReal : Bool} {expLog : K → K → K} {now bound : K}
  {drivetrain : Drivetrain K}

theorem create (now : K) :
    HoldsAtMost config isReal expLog now 1 (.create config isReal expLog now) where
  settings_eq := settings_create config isReal expLog now
  speedTime := le_rfl
  rotTime := le_rfl
  speed := by simp [Drivetrain.create]
  rot := by simp [Drivetrain.create]

variable [FloorRing K]

theorem of_approach (ready : ReadyAt config isReal expLog now drivetrain) (speed rotation : K)
    (speedLe : |approach drivetrain.speedLimiter.prevVal (drivetrain.speedTarget speed)
      (3.0 * (now - drivetrain.speedLimiter.prevTime))| ≤ bound)
    (rotLe : |approach drivetrain.rotLimiter.prevVal (drivetrain.rotationTarget rotation)
      (3.0 * (now - drivetrain.rotLimiter.prevTime))| ≤ bound) :
    HoldsAtMost config isReal expLog now bound
      (drivetrain.driveNormalized now speed rotation) := by
  have settings := (settings_driveNormalized drivetrain now speed rotation).trans ready.settings_eq
  rw [ready.driveNormalized_eq] at settings ⊢
  exact ⟨⟨settings, le_rfl, le_rfl⟩, speedLe, rotLe⟩

theorem driveNormalized (holds : HoldsAtMost config isReal expLog now 1 drivetrain)
    (unit : InUnitRange expLog config) (speed : K) {rotation : K} (within : |rotation| ≤ 1) :
    HoldsAtMost config isReal expLog now 1 (drivetrain.driveNormalized now speed rotation) := by
  have throttle : drivetrain.rotationThrottle =
      config.number "drivetrain" "rotation_throttle" 0 :=
    congrArg Settings.rotationThrottle holds.settings_eq
  have speedTarget := abs_speedTarget_le holds.speedRange_eq unit.skew speed
  have rotationTarget : |drivetrain.rotationTarget rotation| ≤ 1 :=
    abs_rotationTarget_le (unit.throttle_nonneg.trans_eq throttle.symm)
      (throttle.trans_le unit.throttle_le) within
  have speedStep : 0 ≤ 3.0 * (now - drivetrain.speedLimiter.prevTime) :=
    mul_nonneg (by norm_num) (sub_nonneg.mpr holds.speedTime)
  have rotStep : 0 ≤ 3.0 * (now - drivetrain.rotLimiter.prevTime) :=
    mul_nonneg (by norm_num) (sub_nonneg.mpr holds.rotTime)
  exact of_approach holds.toReadyAt speed rotation
    (abs_approach_le speedStep holds.speed speedTarget)
    (abs_approach_le rotStep holds.rot rotationTarget)

/-- Released sticks bring what the limiters hold closer to zero, by the rate
for the time since they last held it. -/
theorem driveNormalized_zero {last : K}
    (holds : HoldsAtMost config isReal expLog last (max 0 bound) drivetrain)
    (forward : last ≤ now) :
    HoldsAtMost config isReal expLog now (max 0 (bound - 3.0 * (now - last)))
      (drivetrain.driveNormalized now 0 0) := by
  have ready := holds.toReadyAt.mono forward
  have speedTarget : drivetrain.speedTarget 0 = 0 := by
    rw [speedTarget_eq ready.speedRange_eq, min_eq_right zero_le_one,
      max_eq_right (neg_nonpos.mpr zero_le_one), skewed_zero]
  have rate : (0 : K) ≤ 3.0 := by norm_num
  have longer {prevTime : K} (before : prevTime ≤ last) :
      3.0 * (now - last) ≤ 3.0 * (now - prevTime) :=
    mul_le_mul_of_nonneg_left (sub_le_sub_left before now) rate
  have closer {prevVal prevTime : K} (before : prevTime ≤ last)
      (valueLe : |prevVal| ≤ max 0 bound) :
      |approach prevVal 0 (3.0 * (now - prevTime))| ≤ max 0 (bound - 3.0 * (now - last)) :=
    (abs_approach_zero_le ((mul_nonneg rate (sub_nonneg.mpr forward)).trans (longer before))
      valueLe).trans (max_le_max_left 0 (sub_le_sub_left (longer before) bound))
  apply of_approach ready 0 0
  · rw [speedTarget]
    exact closer holds.speedTime holds.speed
  · rw [rotationTarget_zero]
    exact closer holds.rotTime holds.rot

theorem setPoint_driveNormalized (ready : ReadyAt config isReal expLog now drivetrain)
    {speed rotation : K}
    (holds : HoldsAtMost config isReal expLog now 0
      (drivetrain.driveNormalized now speed rotation)) :
    (drivetrain.driveNormalized now speed rotation).setPoint = ⟨0, 0⟩ := by
  have speedZero := abs_nonpos_iff.mp holds.speed
  have rotZero := abs_nonpos_iff.mp holds.rot
  rw [ready.driveNormalized_eq] at speedZero rotZero ⊢
  dsimp only at speedZero rotZero ⊢
  rw [speedZero, rotZero]
  simp

end HoldsAtMost

end Drivetrain

/-- The call drives at a given time, if at all, with a rotation in range. -/
def BindingCall.DrivesAt {K : Type*} [Field K] [LinearOrder K] (now : K) : BindingCall K → Prop
  | .drive reading _ rot => reading = now ∧ |rot| ≤ 1
  | _ => True

namespace TeleopSession

open Runs Drivetrain

variable {K τ π : Type*} [Field K] [LinearOrder K]

section Sticks

variable (session : TeleopSession K τ) {input : TeleopInput K}

theorem driveRotation_eq : session.driveRotation input =
    Parameters.filtered input.pad ⟨Parameters.rightStickX, by decide⟩ :=
  session.robot.getAxisValue_processedParams input.pad _

theorem abs_driveRotation_le [IsStrictOrderedRing K] (inRange : input.pad.AxesInRange) :
    |session.driveRotation input| ≤ 1 := by
  rw [driveRotation_eq]
  exact Parameters.abs_filtered_le (inRange _)

theorem driveRotation_of_released (released : (TeleopAction.tick input).Released) :
    session.driveRotation input = 0 := by
  rw [driveRotation_eq]
  exact Parameters.filtered_eq_zero (by decide) released.2.2

theorem driveSpeed_of_released (released : (TeleopAction.tick input).Released) :
    session.driveSpeed input = 0 := by
  have speed : (session.robot.processedParams input.pad).getSpeed = 0 := by
    change (session.robot.processedParams input.pad).getAxisValue _ = 0
    rw [RobotMain.getAxisValue_processedParams]
    exact Parameters.filtered_eq_zero (by decide) released.2.1
  simp [driveSpeed, TeleopScript.driveSpeed, speed]

theorem drivesAt_respond [IsStrictOrderedRing K] (inRange : input.pad.AxesInRange) :
    ∀ call ∈ (session.respond input).2, call.DrivesAt input.now := by
  cases connected : input.pad.connected with
  | false => simp [respond, connected]
  | true =>
      rw [session.calls_respond_of_connected connected, List.forall_mem_append,
        List.forall_mem_cons, shooterCalls, if_pos connected]
      refine ⟨⟨⟨rfl, session.abs_driveRotation_le inRange⟩, ?_⟩, ?_⟩
      · rcases session.script.updateArms_cases input.pad with calls | calls | calls | calls <;>
          rw [calls] <;> simp [BindingCall.DrivesAt]
      · rcases TeleopScript.shooterCalls_cases input.pad session.robot.shooter with
          calls | calls | calls | ⟨level, calls, -⟩ <;>
          rw [calls] <;> simp [BindingCall.DrivesAt]

end Sticks

end TeleopSession

section Past

open Drivetrain

variable {K τ π : Type*} [Field K] [LinearOrder K] [IsStrictOrderedRing K]

/-- The binding calls of a callback are made at one time. -/
theorem Event.RunsTeleopBot.exists_drivesAt {event : Event K τ π} (runs : event.RunsTeleopBot)
    {last : K} (forward : ∀ reading ∈ event.readings, last ≤ reading) :
    ∃ now, last ≤ now ∧ (now = last ∨ now ∈ event.readings) ∧
      ∀ call ∈ event.calls, call.DrivesAt now := by
  by_cases silent : event.calls = []
  · exact ⟨last, le_rfl, .inl rfl, by simp [silent]⟩
  cases event with
  | teleopPeriodic pad outcome =>
      obtain ⟨inRange, session, now, stopped⟩ := runs
      have made : ∀ call ∈ outcome.calls, call.DrivesAt now := fun call member =>
        session.drivesAt_respond inRange call (stopped.subset member)
      have read : now ∈ (Event.teleopPeriodic pad outcome : Event K τ π).readings := by
        cases connected : pad.connected with
        | false =>
            rw [TeleopSession.respond, if_neg (by simp [connected])] at stopped
            exact absurd (List.prefix_nil.mp stopped) silent
        | true =>
            rw [session.calls_respond_of_connected connected, List.cons_append,
              List.prefix_cons_iff] at stopped
            obtain none | ⟨rest, calls, -⟩ := stopped
            · exact absurd none silent
            · simp [readings, Event.calls, calls, BindingCall.reading]
      exact ⟨now, forward now read, .inr read, made⟩
  | _ => exact absurd runs silent

variable [FloorRing K]

theorem Actuators.Reaches.holdsAtMost {lua : BindingCall K → Prop} {first last : Actuators K}
    (reaches : Reaches lua first last) {config : Config K} {isReal : Bool} {expLog : K → K → K}
    {now : K} (unit : InUnitRange expLog config) (made : ∀ call, lua call → call.DrivesAt now)
    (holds : HoldsAtMost config isReal expLog now 1 first.drivetrain) :
    HoldsAtMost config isReal expLog now 1 last.drivetrain := by
  refine reaches.invariant
    (fun actuators => HoldsAtMost config isReal expLog now 1 actuators.drivetrain) ?_ holds
  intro actuators call byLua before
  cases call with
  | drive xSpeed rot => exact before.drive xSpeed rot
  | shooter call => exact before
  | bound call =>
      cases call with
      | drive reading speed rot =>
          obtain ⟨rfl, within⟩ := made _ byLua
          exact before.driveNormalized unit speed within
      | _ => exact before

/-- Whatever the sticks do, the limiters stay in range. -/
theorem TimedRobot.holdsAtMost_of_run {platform : Platform K τ π} {config : Config K}
    (unit : InUnitRange platform.expLog config) {isReal : Bool} {events : List (Event K τ π)}
    (runs : ∀ event ∈ events, event.RunsTeleopBot) {system last : TimedRobot K τ} {now : K}
    (holds : HoldsAtMost config isReal platform.expLog now 1 system.robot.drivetrain)
    (ran : run platform system events = .ok last)
    (ordered : (now :: events.flatMap Event.readings).Pairwise (· ≤ ·)) {later : K}
    (after : ∀ reading ∈ now :: events.flatMap Event.readings, reading ≤ later) :
    HoldsAtMost config isReal platform.expLog later 1 last.robot.drivetrain := by
  induction events generalizing system now with
  | nil =>
      cases ran
      exact holds.mono (after now (by simp))
  | cons event rest ih =>
      obtain ⟨next, taken, remaining⟩ := Runs.foldlM_cons_ok.mp ran
      obtain ⟨here, restRuns⟩ := List.forall_mem_cons.mp runs
      obtain ⟨fromNow, ordered⟩ := List.pairwise_cons.mp ordered
      rw [List.flatMap_cons, List.pairwise_append] at ordered
      obtain ⟨-, restOrdered, across⟩ := ordered
      obtain ⟨time, forward, source, made⟩ :=
        here.exists_drivesAt fun reading member => fromNow reading (by simp [member])
      have called := RobotMain.reaches_of_perform (step_ok_iff.mp taken).2
      -- The rest of the run goes on from the time of the calls, or from `now`
      -- if the callback makes none.
      have beforeRest : ∀ reading ∈ rest.flatMap Event.readings, time ≤ reading := by
        intro reading member
        rcases source with rfl | read
        · exact fromNow reading (by simp only [List.flatMap_cons, List.mem_append, member, or_true])
        · exact across time read reading member
      have timeLe : time ≤ later := by
        rcases source with rfl | read
        · exact after time (by simp)
        · exact after time (by simp [read])
      refine ih restRuns (called.holdsAtMost unit made (holds.mono forward)) remaining
        (List.pairwise_cons.mpr ⟨beforeRest, restOrdered⟩) ?_
      intro reading member
      rcases List.mem_cons.mp member with rfl | inRest
      · exact timeLe
      · exact after reading (by simp only [List.flatMap_cons, List.mem_cons, List.mem_append,
          inRest, or_true])

end Past

namespace TeleopSession

open Runs Drivetrain

variable {K τ π : Type*} [Field K] [LinearOrder K]

/-- What the limiters may still hold after a time without the sticks. -/
def remainder (start now : K) : K :=
  max 0 (1 - 3.0 * (now - start))

theorem remainder_eq (start last now : K) :
    max 0 (1 - 3.0 * (last - start) - 3.0 * (now - last)) = remainder start now := by
  rw [remainder, sub_sub, ← mul_add, add_comm, sub_add_sub_cancel]

theorem remainder_self [IsStrictOrderedRing K] (start : K) : remainder start start = 1 := by
  rw [remainder, sub_self, mul_zero, sub_zero, max_eq_right zero_le_one]

theorem remainder_eq_zero [IsStrictOrderedRing K] {start now : K}
    (late : start + 1 / 3.0 ≤ now) : remainder start now = 0 := by
  have positive : (0 : K) < 3.0 := by norm_num
  have enough : 1 ≤ 3.0 * (now - start) := by
    rw [← div_le_iff₀' positive]
    exact le_sub_iff_add_le'.mpr late
  exact max_eq_left (sub_nonpos.mpr enough)

variable [FloorRing K]

def act (platform : Platform K τ π) (session : TeleopSession K τ) :
    TeleopAction K → TeleopSession K τ
  | .tick input => session.tick platform input
  | .renew disabledTicks config =>
      begin (RobotMain.driveDisabled^[disabledTicks] session.finish) config

theorem runsTeleopBot_periodicEvents (platform : Platform K τ π) (session : TeleopSession K τ)
    {inputs : List (TeleopInput K)} (inRange : ∀ input ∈ inputs, input.pad.AxesInRange) :
    ∀ event ∈ session.periodicEvents platform inputs, event.RunsTeleopBot := by
  induction inputs generalizing session with
  | nil => simp [periodicEvents]
  | cons input rest ih =>
      obtain ⟨here, later⟩ := List.forall_mem_cons.mp inRange
      rw [periodicEvents, List.forall_mem_cons]
      exact ⟨⟨here, session, input.now, List.prefix_refl _⟩, ih _ later⟩

variable {platform : Platform K τ π} {session : TeleopSession K τ} {config : Config K}
  {isReal : Bool} {expLog : K → K → K} {start last : K}

/-- Between two sessions the limiters are not asked. -/
theorem holdsAtMost_renew {bound : K}
    (holds : HoldsAtMost config isReal expLog last bound session.robot.drivetrain)
    (disabledTicks : Nat) (renewed : Config K) :
    HoldsAtMost config isReal expLog last bound
      (session.act platform (.renew disabledTicks renewed)).robot.drivetrain := by
  rw [act, drivetrain_begin]
  induction disabledTicks with
  | zero =>
      have same := congrArg Actuators.drivetrain session.finish_spec.2
      rwa [Function.iterate_zero, id, same]
  | succ ticks ih =>
      rw [Function.iterate_succ_apply']
      exact ih.drive 0 0

variable [IsStrictOrderedRing K]

/-- In every tick with released sticks the limiters lose what the time since
the tick before allows. -/
theorem holdsAtMost_tick_of_released (platform : Platform K τ π)
    (holds : HoldsAtMost config isReal expLog last (remainder start last) session.robot.drivetrain)
    {input : TeleopInput K} (released : (TeleopAction.tick input).Released)
    (forward : last ≤ input.now) :
    HoldsAtMost config isReal expLog input.now (remainder start input.now)
      (session.tick platform input).robot.drivetrain := by
  rw [session.drivetrain_tick_of_connected platform released.1,
    session.driveSpeed_of_released released, session.driveRotation_of_released released,
    ← remainder_eq start last]
  exact holds.driveNormalized_zero forward

theorem setPoint_of_released
    (holds : HoldsAtMost config isReal expLog last (remainder start last) session.robot.drivetrain)
    {actions : List (TeleopAction K)} (released : ∀ action ∈ actions, action.Released)
    (ordered : (last :: actions.filterMap TeleopAction.reading).Pairwise (· ≤ ·)) :
    ∀ taken ∈ steps (act platform) session actions, ∀ input, taken.2 = .tick input →
      start + 1 / 3.0 ≤ input.now →
        (taken.1.act platform taken.2).robot.drivetrain.setPoint = ⟨0, 0⟩ := by
  induction actions generalizing session last with
  | nil => simp
  | cons action rest ih =>
      obtain ⟨here, later⟩ := List.forall_mem_cons.mp released
      rw [steps_cons, List.forall_mem_cons]
      cases action with
      | renew disabledTicks renewed =>
          rw [TeleopAction.filterMap_reading_renew] at ordered
          exact ⟨by simp, ih (holdsAtMost_renew holds disabledTicks renewed) later ordered⟩
      | tick input =>
          rw [TeleopAction.filterMap_reading_tick, List.pairwise_cons,
            List.forall_mem_cons] at ordered
          obtain ⟨⟨forward, -⟩, ordered⟩ := ordered
          have next := holdsAtMost_tick_of_released platform holds here forward
          refine ⟨?_, ih next later ordered⟩
          intro ticked equal late
          obtain rfl : input = ticked := TeleopAction.tick.inj equal
          rw [remainder_eq_zero late, session.drivetrain_tick_of_connected platform here.1] at next
          rw [act, session.drivetrain_tick_of_connected platform here.1]
          exact HoldsAtMost.setPoint_driveNormalized (holds.toReadyAt.mono forward) next

/-- **Released sticks stop the robot.** After any run of Teleop sessions, from
a tick on with the controller connected, without a Lua error and with both
sticks within the dead zone, every tick a third of a second later drives with
zero speed and zero rotation. -/
theorem released_sticks_stop (platform : Platform K τ π)
    (expLog : ∀ skew, 0 < skew → SkewInRange platform.expLog skew) (config : Config K)
    (skew : 0 < config.number "gamepad" "skew_factor" 1)
    (throttle_nonneg : 0 ≤ config.number "drivetrain" "rotation_throttle" 0)
    (throttle_le : config.number "drivetrain" "rotation_throttle" 0 ≤ 1) (now : K)
    (reads : ModeReads τ) (past : List (Event K τ π))
    (runs : ∀ event ∈ past, event.RunsTeleopBot) (session : TeleopSession K τ)
    (ran : TimedRobot.run platform (.boot platform config now reads) past =
      .ok ⟨session.robot, some .teleop⟩)
    (first : TeleopInput K) (later : List (TeleopAction K))
    (released : ∀ action ∈ .tick first :: later, action.Released)
    (ordered : (now :: past.flatMap Event.readings ++
      (.tick first :: later).filterMap TeleopAction.reading).Pairwise (· ≤ ·)) :
    ∀ taken ∈ steps (act platform) session (.tick first :: later), ∀ input,
      taken.2 = .tick input → first.now + 1 / 3.0 ≤ input.now →
        (taken.1.act platform taken.2).robot.drivetrain.setPoint = ⟨0, 0⟩ := by
  rw [TeleopAction.filterMap_reading_tick, List.pairwise_append] at ordered
  obtain ⟨pastOrdered, laterOrdered, across⟩ := ordered
  have booted : HoldsAtMost config platform.isReal platform.expLog now 1
      (TimedRobot.boot platform config now reads).robot.drivetrain := by
    have created := congrArg Actuators.drivetrain
      (RobotMain.toActuators_create platform config now reads)
    rw [TimedRobot.boot, created]
    exact .create now
  have reached : HoldsAtMost config platform.isReal platform.expLog first.now 1
      session.robot.drivetrain :=
    TimedRobot.holdsAtMost_of_run ⟨expLog _ skew, throttle_nonneg, throttle_le⟩ runs booted ran
      pastOrdered fun reading member => across reading member first.now (by simp)
  rw [← remainder_self first.now] at reached
  apply setPoint_of_released reached released
  rw [TeleopAction.filterMap_reading_tick, List.pairwise_cons, List.forall_mem_cons]
  exact ⟨⟨le_rfl, (List.pairwise_cons.mp laterOrdered).1⟩, laterOrdered⟩

/-- A session on the bench in which the left stick is pushed for one tick, and
released a second later. -/
theorem released_sticks_stop_after_push :
    let pushed := (begin (.create .bench .bench 0 (.bench (.boolean true))) .bench).tick .bench
      (stickInput true 1)
    ∀ taken ∈ steps (act .bench) pushed
        [.tick ⟨.bench true, 2⟩, .tick ⟨.bench true, 2.1⟩, .tick ⟨.bench true, 2.5⟩],
      ∀ input, taken.2 = .tick input → 2 + 1 / 3.0 ≤ input.now →
        (taken.1.act .bench taken.2).robot.drivetrain.setPoint = ⟨0, 0⟩ := by
  set robot : RobotMain Rat Unit := .create .bench .bench 0 (.bench (.boolean true))
  have squares (skew : Rat) (_ : 0 < skew) : SkewInRange Platform.bench.expLog skew :=
    fun distance _ small => ⟨mul_self_nonneg distance, by
      exact mul_le_one₀ small (by positivity) small⟩
  refine released_sticks_stop .bench squares .bench (by decide +kernel) (by decide +kernel)
    (by decide +kernel) 0 (.bench (.boolean true))
    (.teleopInit (TeleopScript.sessionStart .bench) ::
      (begin robot .bench).periodicEvents .bench [stickInput true 1]) ?_ _ ?_ ⟨.bench true, 2⟩
    [.tick ⟨.bench true, 2.1⟩, .tick ⟨.bench true, 2.5⟩] ?_ ?_
  · refine List.forall_mem_cons.mpr ⟨rfl, runsTeleopBot_periodicEvents .bench _ ?_⟩
    intro input member axis
    rw [List.mem_singleton.mp member, stickInput]
    dsimp only
    split <;> simp
  · refine Runs.foldlM_cons_ok.mpr ⟨⟨(begin robot .bench).robot, some .teleop⟩, ?_,
      run_periodicEvents .bench _ [stickInput true 1]⟩
    exact TimedRobot.step_ok_iff.mpr ⟨rfl, (begin_spec robot .bench).1⟩
  · simp [TeleopAction.Released, GamepadReading.bench, Parameters.deadZone]
    norm_num
  · decide +kernel

end TeleopSession

end RobotFirmware
