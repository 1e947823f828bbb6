import RobotFirmware.ActuatorCalls
import RobotFirmware.TeleopTick

/-!
# Driving in Teleop

In a tick with the controller the speed of the stick goes through its slew rate
limiter.  In a tick without it the drivetrain is stopped and the limiter is not
asked, so it keeps what it held and the time at which it held it.  When the
controller is back, the limiter has all the time in between to move.
-/

namespace RobotFirmware

theorem abs_neg_mul_le_mul_iff {K : Type*} [Field K] [LinearOrder K] [IsStrictOrderedRing K]
    {value limit bound : K} (nonneg : 0 ≤ limit) :
    |-value * limit| ≤ 3.0 * limit * bound ↔ limit = 0 ∨ |value| ≤ 3.0 * bound := by
  rw [abs_mul, abs_neg, abs_of_nonneg nonneg, mul_right_comm]
  rcases nonneg.eq_or_lt with rfl | positive
  · simp
  · rw [mul_le_mul_iff_left₀ positive]
    simp [positive.ne']

theorem abs_neg_mul_le_iff_of_neg {K : Type*} [Field K] [LinearOrder K] [IsStrictOrderedRing K]
    (value before elapsed : K) {limit : K} (negative : limit < 0) :
    |-value * limit| ≤ |-before * limit| + 3.0 * limit * elapsed ↔
      |value| ≤ |before| - 3.0 * elapsed := by
  have factored :
      |before| * -limit + 3.0 * limit * elapsed = (|before| - 3.0 * elapsed) * -limit := by
    rw [sub_mul, mul_neg, mul_neg, sub_neg_eq_add, mul_right_comm]
  rw [abs_mul, abs_mul, abs_neg, abs_neg, abs_of_neg negative, factored,
    mul_le_mul_iff_left₀ (neg_pos.mpr negative)]

namespace TeleopSession

open Runs SlewRate Drivetrain

variable {K τ π : Type*} [Field K] [LinearOrder K] [FloorRing K]

theorem drivetrain_begin (robot : RobotMain K τ) (config : Config K) :
    (begin robot config).robot.drivetrain = robot.drivetrain := by
  obtain ⟨begun, returned, unchanged⟩ : ∃ begun,
      robot.teleopInit (TeleopScript.sessionStart config) = .ok begun ∧
        begun.drivetrain = robot.drivetrain := ⟨_, rfl, rfl⟩
  rw [← Except.ok.inj (returned.symm.trans (begin_spec robot config).1), unchanged]

theorem readyAt_tick (platform : Platform K τ π) {session : TeleopSession K τ}
    {config : Config K} {isReal : Bool} {expLog : K → K → K} {now : K}
    (ready : ReadyAt config isReal expLog now session.robot.drivetrain) {input : TeleopInput K}
    (earlier : input.now ≤ now) :
    ReadyAt config isReal expLog now (session.tick platform input).robot.drivetrain := by
  cases connected : input.pad.connected with
  | true =>
      rw [session.drivetrain_tick_of_connected platform connected]
      exact ⟨ready.settings_eq, earlier, earlier⟩
  | false =>
      rw [session.drivetrain_tick_of_disconnected platform connected]
      exact ⟨ready.settings_eq, ready.speedTime, ready.rotTime⟩

theorem maxSpeed_tick (platform : Platform K τ π) (session : TeleopSession K τ)
    (input : TeleopInput K) :
    (session.tick platform input).robot.drivetrain.maxSpeed =
      session.robot.drivetrain.maxSpeed := by
  cases connected : input.pad.connected with
  | true =>
      rw [session.drivetrain_tick_of_connected platform connected]
      rfl
  | false =>
      rw [session.drivetrain_tick_of_disconnected platform connected]
      rfl

theorem readyAt_foldl_tick (platform : Platform K τ π) {session : TeleopSession K τ}
    {config : Config K} {isReal : Bool} {expLog : K → K → K} {now : K}
    (ready : ReadyAt config isReal expLog now session.robot.drivetrain)
    {inputs : List (TeleopInput K)} (earlier : ∀ input ∈ inputs, input.now ≤ now) :
    ReadyAt config isReal expLog now (inputs.foldl (tick platform) session).robot.drivetrain := by
  induction inputs generalizing session with
  | nil => exact ready
  | cons input rest ih =>
      exact ih (readyAt_tick platform ready (earlier input (by simp)))
        (fun later member => earlier later (by simp [member]))

/-- Over the time since the tick before, the speed has changed by the rate of
three maximal speeds a second at most. -/
def SlewLimited (platform : Platform K τ π) (session : TeleopSession K τ) (previous : K)
    (input : TeleopInput K) : Prop :=
  |(session.tick platform input).robot.drivetrain.setPoint.xSpeed| ≤
    |session.robot.drivetrain.setPoint.xSpeed| +
      3.0 * session.robot.drivetrain.maxSpeed * (input.now - previous)

/-- In a tick with the controller the limiter of the speed cannot leave the
band that may be reached from standstill since the tick before, although it
moves since its own last calculation. -/
def ReconnectsGently (session : TeleopSession K τ) (previous : K) (input : TeleopInput K) : Prop :=
  let drivetrain := session.robot.drivetrain
  let limiter := drivetrain.speedLimiter
  drivetrain.maxSpeed = 0 ∨
    StaysWithin limiter.prevVal (drivetrain.speedTarget (session.driveSpeed input))
      (3.0 * (input.now - limiter.prevTime)) (3.0 * (input.now - previous))

/-- In a tick the limiter of the speed moves towards zero for all the time since
the tick before. -/
def SlowsDown (session : TeleopSession K τ) (previous : K) (input : TeleopInput K) : Prop :=
  let drivetrain := session.robot.drivetrain
  let held := drivetrain.speedLimiter.prevVal
  let change := 3.0 * (input.now - previous)
  if input.pad.connected then
    StaysWithin held (drivetrain.speedTarget (session.driveSpeed input)) change (|held| - change)
  else
    change ≤ |held|

/-- The ticks that keep to the rate: with a negative maximal speed the robot
would have to slow down all the time. -/
def DrivesGently (session : TeleopSession K τ) (previous input : TeleopInput K) : Prop :=
  if 0 ≤ session.robot.drivetrain.maxSpeed then
    previous.pad.connected = false → input.pad.connected = true →
      session.ReconnectsGently previous.now input
  else
    previous.pad.connected = true ∧ session.SlowsDown previous.now input

variable [IsStrictOrderedRing K]

theorem slewLimited_of_disconnected (platform : Platform K τ π) {session : TeleopSession K τ}
    {previous : K} {input : TeleopInput K}
    (nonneg : 0 ≤ session.robot.drivetrain.maxSpeed) (forward : previous ≤ input.now)
    (disconnected : input.pad.connected = false) :
    session.SlewLimited platform previous input := by
  rw [SlewLimited, session.drivetrain_tick_of_disconnected platform disconnected]
  have elapsed : 0 ≤ input.now - previous := sub_nonneg.mpr forward
  simp only [drive, abs_zero]
  positivity

theorem xSpeed_tick_of_connected (platform : Platform K τ π) {session : TeleopSession K τ}
    {config : Config K} {isReal : Bool} {expLog : K → K → K} {input : TeleopInput K}
    (ready : ReadyAt config isReal expLog input.now session.robot.drivetrain)
    (connected : input.pad.connected = true) :
    let drivetrain := session.robot.drivetrain
    let limited := approach drivetrain.speedLimiter.prevVal
      (drivetrain.speedTarget (session.driveSpeed input))
      (3.0 * (input.now - drivetrain.speedLimiter.prevTime))
    (session.tick platform input).robot.drivetrain.speedLimiter = ⟨3.0, limited, input.now⟩ ∧
      (session.tick platform input).robot.drivetrain.setPoint.xSpeed =
        -limited * drivetrain.maxSpeed := by
  rw [session.drivetrain_tick_of_connected platform connected, ready.driveNormalized_eq]
  exact ⟨rfl, rfl⟩

/-- What a tick drives with is bounded by what the limiter of the speed holds,
and by what it may add in the time since its last calculation. -/
theorem abs_xSpeed_tick_le (platform : Platform K τ π) {session : TeleopSession K τ}
    {config : Config K} {isReal : Bool} {expLog : K → K → K} {input : TeleopInput K}
    (ready : ReadyAt config isReal expLog input.now session.robot.drivetrain) :
    let drivetrain := session.robot.drivetrain
    let limiter := drivetrain.speedLimiter
    |(session.tick platform input).robot.drivetrain.setPoint.xSpeed| ≤
      (|limiter.prevVal| + 3.0 * (input.now - limiter.prevTime)) * |drivetrain.maxSpeed| := by
  intro drivetrain limiter
  have step : 0 ≤ 3.0 * (input.now - limiter.prevTime) :=
    mul_nonneg (by norm_num) (sub_nonneg.mpr ready.speedTime)
  cases connected : input.pad.connected with
  | true =>
      rw [(xSpeed_tick_of_connected platform ready connected).2, abs_mul, abs_neg]
      exact mul_le_mul_of_nonneg_right (abs_approach_le_add step) (abs_nonneg _)
  | false =>
      rw [session.drivetrain_tick_of_disconnected platform connected]
      simp only [drive, abs_zero]
      positivity

/-- The first tick of a session is bounded by what the sessions before it have
left in the limiter, and by all the time since they asked it last. -/
theorem abs_xSpeed_first_tick_le (platform : Platform K τ π)
    (system : TimedRobot.Reached platform) (config : Config K) {input : TeleopInput K}
    (clock : system.val.robot.drivetrain.speedLimiter.prevTime ≤ input.now ∧
      system.val.robot.drivetrain.rotLimiter.prevTime ≤ input.now) :
    let drivetrain := system.val.robot.drivetrain
    let limiter := drivetrain.speedLimiter
    |((begin system.val.robot config).tick platform input).robot.drivetrain.setPoint.xSpeed| ≤
      (|limiter.prevVal| + 3.0 * (input.now - limiter.prevTime)) * |drivetrain.maxSpeed| := by
  obtain ⟨built, settings⟩ := TimedRobot.drivetrain_settings_of_reachable system.property
  have kept := drivetrain_begin system.val.robot config
  have ready : ReadyAt built platform.isReal platform.expLog input.now
      (begin system.val.robot config).robot.drivetrain := by
    rw [kept]
    exact ⟨settings, clock.1, clock.2⟩
  simpa only [kept] using abs_xSpeed_tick_le platform ready

/-- Between two ticks with the controller the limiter has moved for the time
between them. -/
theorem slewLimited_of_connected (platform : Platform K τ π) {session : TeleopSession K τ}
    {config : Config K} {isReal : Bool} {expLog : K → K → K} {previous input : TeleopInput K}
    (ready : ReadyAt config isReal expLog previous.now session.robot.drivetrain)
    (nonneg : 0 ≤ session.robot.drivetrain.maxSpeed) (forward : previous.now ≤ input.now)
    (previousConnected : previous.pad.connected = true)
    (connected : input.pad.connected = true) :
    (session.tick platform previous).SlewLimited platform previous.now input := by
  obtain ⟨limiter, previousSpeed⟩ := xSpeed_tick_of_connected platform ready previousConnected
  have later := ready.mono forward
  have readyNext := readyAt_tick platform later forward
  obtain ⟨-, speed⟩ := xSpeed_tick_of_connected platform readyNext connected
  have step : 0 ≤ 3.0 * (input.now - previous.now) :=
    mul_nonneg (by norm_num) (sub_nonneg.mpr forward)
  rw [SlewLimited, speed, previousSpeed, limiter, maxSpeed_tick, abs_mul, abs_mul, abs_neg, abs_neg,
    abs_of_nonneg nonneg]
  apply (mul_le_mul_of_nonneg_right (abs_approach_le_add step) nonneg).trans_eq
  rw [add_mul, mul_right_comm]

/-- From standstill, a tick with the controller is slew-limited exactly when
the controller is reconnected gently. -/
theorem slewLimited_iff_of_stopped (platform : Platform K τ π) {session : TeleopSession K τ}
    {config : Config K} {isReal : Bool} {expLog : K → K → K} {previous : K}
    {input : TeleopInput K}
    (ready : ReadyAt config isReal expLog input.now session.robot.drivetrain)
    (nonneg : 0 ≤ session.robot.drivetrain.maxSpeed)
    (stopped : session.robot.drivetrain.setPoint.xSpeed = 0)
    (connected : input.pad.connected = true) :
    session.SlewLimited platform previous input ↔ session.ReconnectsGently previous input := by
  obtain ⟨-, speed⟩ := xSpeed_tick_of_connected platform ready connected
  have step : 0 ≤ 3.0 * (input.now - session.robot.drivetrain.speedLimiter.prevTime) :=
    mul_nonneg (by norm_num) (sub_nonneg.mpr ready.speedTime)
  rw [SlewLimited, speed, stopped, abs_zero, zero_add, abs_neg_mul_le_mul_iff nonneg,
    abs_approach_le_iff step]
  rfl

/-- With a negative maximal speed a tick is slew-limited exactly when the robot
slows down from the tick before. -/
theorem slewLimited_iff_of_negative (platform : Platform K τ π) {session : TeleopSession K τ}
    {config : Config K} {isReal : Bool} {expLog : K → K → K} {previous input : TeleopInput K}
    (ready : ReadyAt config isReal expLog previous.now session.robot.drivetrain)
    (negative : (session.tick platform previous).robot.drivetrain.maxSpeed < 0)
    (forward : previous.now < input.now) :
    (session.tick platform previous).SlewLimited platform previous.now input ↔
      previous.pad.connected = true ∧
        (session.tick platform previous).SlowsDown previous.now input := by
  have elapsed : 0 < input.now - previous.now := sub_pos.mpr forward
  have step : 0 ≤ 3.0 * (input.now - previous.now) := mul_nonneg (by norm_num) elapsed.le
  have readyNext := readyAt_tick platform ready le_rfl
  cases previousConnected : previous.pad.connected with
  | false =>
      have standstill : (session.tick platform previous).robot.drivetrain.setPoint.xSpeed = 0 := by
        rw [session.drivetrain_tick_of_disconnected platform previousConnected]
        rfl
      -- From standstill no speed is within the bound, which is negative.
      have backwards :
          3.0 * (session.tick platform previous).robot.drivetrain.maxSpeed *
            (input.now - previous.now) < 0 :=
        mul_neg_of_neg_of_pos (mul_neg_of_pos_of_neg (by norm_num) negative) elapsed
      rw [SlewLimited, standstill, abs_zero, zero_add]
      simpa using backwards.trans_le (abs_nonneg _)
  | true =>
      obtain ⟨limiter, previousSpeed⟩ := xSpeed_tick_of_connected platform ready previousConnected
      rw [← session.maxSpeed_tick platform previous] at previousSpeed
      rw [and_iff_right rfl, SlewLimited, previousSpeed, SlowsDown, limiter]
      cases connected : input.pad.connected with
      | false =>
          have stopped := abs_neg_mul_le_iff_of_neg 0
            (session.tick platform previous).robot.drivetrain.speedLimiter.prevVal
            (input.now - previous.now) negative
          rw [limiter] at stopped
          rw [drivetrain_tick_of_disconnected platform _ connected]
          simpa [drive] using stopped
      | true =>
          obtain ⟨-, speed⟩ := xSpeed_tick_of_connected platform (readyNext.mono forward.le)
            connected
          rw [speed, abs_neg_mul_le_iff_of_neg _ _ _ negative, if_pos rfl, limiter,
            abs_approach_le_iff step]

/-- Two ticks in a row, the first of them after some others. -/
def Consecutive (inputs first : List (TeleopInput K)) (previous input : TeleopInput K) : Prop :=
  ∃ rest, inputs = first ++ previous :: input :: rest

theorem slewLimited_iff (platform : Platform K τ π) {session : TeleopSession K τ}
    {config : Config K} {isReal : Bool} {expLog : K → K → K} {previous input : TeleopInput K}
    (ready : ReadyAt config isReal expLog previous.now session.robot.drivetrain)
    (forward : previous.now < input.now) :
    (session.tick platform previous).SlewLimited platform previous.now input ↔
      (session.tick platform previous).DrivesGently previous input := by
  have readyNext := (readyAt_tick platform ready le_rfl).mono forward.le
  unfold DrivesGently
  split
  next nonneg =>
    have sessionNonneg : 0 ≤ session.robot.drivetrain.maxSpeed :=
      nonneg.trans_eq (session.maxSpeed_tick platform previous)
    cases connected : input.pad.connected with
    | false =>
        exact iff_of_true (slewLimited_of_disconnected platform nonneg forward.le connected)
          (by simp)
    | true =>
        cases previousConnected : previous.pad.connected with
        | true =>
            exact iff_of_true
              (slewLimited_of_connected platform ready sessionNonneg forward.le previousConnected
                connected)
              (by simp)
        | false =>
            have stopped :
                (session.tick platform previous).robot.drivetrain.setPoint.xSpeed = 0 := by
              rw [session.drivetrain_tick_of_disconnected platform previousConnected]
              rfl
            simpa using slewLimited_iff_of_stopped platform readyNext nonneg stopped connected
  next negative =>
    exact slewLimited_iff_of_negative platform ready (not_le.mp negative) forward

/-- **Slew-limited driving.** In a Teleop session that begins in a reachable
state, with ticks at increasing times, every tick changes the speed by the rate
of the limiter at most since the tick before, if and only if the program always
drives gently. -/
theorem speed_slew_limited_iff (platform : Platform K τ π) (system : TimedRobot.Reached platform)
    (config : Config K) (inputs : List (TeleopInput K))
    (increasing : (inputs.map TeleopInput.now).Pairwise (· < ·))
    (clock : ∀ input ∈ inputs, system.val.robot.drivetrain.speedLimiter.prevTime ≤ input.now ∧
      system.val.robot.drivetrain.rotLimiter.prevTime ≤ input.now) :
    (∀ first previous input, Consecutive inputs first previous input →
        ((first ++ [previous]).foldl (tick platform)
          (begin system.val.robot config)).SlewLimited platform previous.now input) ↔
      ∀ first previous input, Consecutive inputs first previous input →
        ((first ++ [previous]).foldl (tick platform)
          (begin system.val.robot config)).DrivesGently previous input := by
  obtain ⟨built, settings⟩ := TimedRobot.drivetrain_settings_of_reachable system.property
  refine forall₃_congr fun first previous input => imp_congr_right ?_
  rintro ⟨rest, rfl⟩
  obtain ⟨speedTime, rotTime⟩ := clock previous (by simp)
  have startReady : ReadyAt built platform.isReal platform.expLog previous.now
      (begin system.val.robot config).robot.drivetrain := by
    rw [drivetrain_begin]
    exact ⟨settings, speedTime, rotTime⟩
  rw [List.map_append, List.pairwise_append] at increasing
  obtain ⟨-, later, earlier⟩ := increasing
  have forward : previous.now < input.now := by
    simp only [List.map_cons, List.pairwise_cons, List.mem_cons] at later
    exact later.1 input.now (.inl rfl)
  have ready := readyAt_foldl_tick platform startReady fun before member =>
    (earlier before.now (List.mem_map_of_mem member) previous.now (by simp)).le
  rw [List.foldl_append, List.foldl_cons, List.foldl_nil]
  exact slewLimited_iff platform ready forward

/-- A tick on the bench, with the left stick pushed. -/
def stickInput (connected : Bool) (now : Rat) : TeleopInput Rat where
  pad := { GamepadReading.bench connected with rawAxis := fun axis => if axis = 1 then 1 else 0 }
  now := now

/-- Ten seconds after the start the controller is connected with the stick
pushed, a fiftieth of a second after a tick without it. -/
theorem speed_jumps_on_reconnect :
    ¬ ∀ (platform : Platform Rat Unit Unit) (system : TimedRobot.Reached platform)
        (config : Config Rat) (inputs : List (TeleopInput Rat)),
      0 ≤ system.val.robot.drivetrain.maxSpeed →
        (inputs.map TeleopInput.now).Pairwise (· < ·) →
          (∀ input ∈ inputs, system.val.robot.drivetrain.speedLimiter.prevTime ≤ input.now ∧
            system.val.robot.drivetrain.rotLimiter.prevTime ≤ input.now) →
            (∀ input ∈ inputs, ∀ axis, |input.pad.rawAxis axis| ≤ 1) →
              ∀ first previous input, Consecutive inputs first previous input →
                ((first ++ [previous]).foldl (tick platform)
                  (begin system.val.robot config)).SlewLimited platform previous.now input := by
  intro limited
  let system : TimedRobot.Reached Platform.bench :=
    ⟨TimedRobot.boot .bench .bench 0 (.bench (.boolean true)), .bench, 0,
      .bench (.boolean true), [], rfl⟩
  have jump := limited .bench system .bench [stickInput false 10, stickInput true 10.02]
    (by decide +kernel) (by decide +kernel) (by decide +kernel)
    (by
      intro input member axis
      simp only [List.mem_cons, List.not_mem_nil, or_false] at member
      rcases member with rfl | rfl <;> simp only [stickInput] <;> split <;> simp)
    [] (stickInput false 10) (stickInput true 10.02) ⟨[], rfl⟩
  exact absurd jump (by unfold SlewLimited; decide +kernel)

/-- Half a second after a tick without the controller the robot may drive at any
speed anyway. -/
theorem speed_slew_limited_of_gentle_reconnect :
    ∃ system : TimedRobot.Reached Platform.bench, ∀ first previous input,
      Consecutive [stickInput true 1, stickInput false 1.5, stickInput true 2] first previous input →
        ((first ++ [previous]).foldl (tick .bench)
          (begin system.val.robot .bench)).SlewLimited .bench previous.now input := by
  let system : TimedRobot.Reached Platform.bench :=
    ⟨TimedRobot.boot .bench .bench 0 (.bench (.boolean true)), .bench, 0,
      .bench (.boolean true), [], rfl⟩
  refine ⟨system, (speed_slew_limited_iff .bench system .bench _ (by decide +kernel)
    (by decide +kernel)).mpr ?_⟩
  rintro first previous input ⟨rest, split⟩
  rcases first with _ | ⟨one, _ | ⟨two, _ | ⟨three, more⟩⟩⟩
  · obtain ⟨rfl, rfl, -⟩ : stickInput true 1 = previous ∧ stickInput false 1.5 = input ∧ _ := by
      simpa using split
    rw [DrivesGently, if_pos (by decide +kernel)]
    exact fun away => absurd away (by decide)
  · obtain ⟨rfl, rfl, rfl, -⟩ : stickInput true 1 = one ∧ stickInput false 1.5 = previous ∧
        stickInput true 2 = input ∧ _ := by
      simpa using split
    rw [DrivesGently, if_pos (by decide +kernel)]
    exact fun _ _ => .inr ⟨by decide +kernel, .inl (by decide +kernel), .inl (by decide +kernel)⟩
  · simp at split
  · simp at split

end TeleopSession

end RobotFirmware
