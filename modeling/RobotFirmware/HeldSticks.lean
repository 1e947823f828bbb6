import RobotFirmware.ReleasedSticks

/-!
# Gears and held sticks

The buttons B and X choose a gear, which stays chosen until the other one is
asked for.  While the sticks are held and the gear is kept, the limiters go on
towards the same targets, and it does not matter how often they are asked on
the way: the robot drives as if it had been asked only once.
-/

namespace RobotFirmware

namespace TeleopScript

variable {K : Type*}

section Gear

variable (script : TeleopScript) (pad : GamepadReading K)

/-- B is looked at first. -/
theorem lowGear_updateSpeed :
    (script.updateSpeed pad).lowGear = if pad.B then true else if pad.X then false
      else script.lowGear := by
  unfold updateSpeed
  split
  · rfl
  · split <;> rfl

theorem lowGear_updateArms : (script.updateArms pad).1.lowGear = script.lowGear := by
  unfold updateArms
  split
  · rfl
  · split
    · split <;> rfl
    · rfl

theorem lowGear_teleopRun [Field K] [LinearOrder K] (params : Parameters K)
    (now : K) (shooter : Shooter K) :
    (script.teleopRun pad params now shooter).1.lowGear = (script.updateSpeed pad).lowGear := by
  change (((script.updateGamepadState pad).updateSpeed pad).updateArms pad).1.lowGear = _
  rw [lowGear_updateArms, lowGear_updateSpeed, lowGear_updateSpeed]
  rfl

end Gear

end TeleopScript

namespace TeleopInput

variable {K : Type*}

/-- The tick chooses the low gear. -/
def ShiftsDown (input : TeleopInput K) : Prop :=
  input.pad.connected = true ∧ input.pad.B = true

/-- The tick chooses the high gear. -/
def ShiftsUp (input : TeleopInput K) : Prop :=
  input.pad.connected = true ∧ input.pad.B = false ∧ input.pad.X = true

/-- Some tick has chosen the low gear, and none the high gear since. -/
def InLowGear (inputs : List (TeleopInput K)) : Prop :=
  ∃ before shift after, inputs = before ++ shift :: after ∧ shift.ShiftsDown ∧
    ∀ later ∈ after, ¬ later.ShiftsUp

end TeleopInput

namespace TeleopSession

open Runs SlewRate Drivetrain

variable {K τ π : Type*} [Field K] [LinearOrder K]

theorem driveSpeed_eq (session : TeleopSession K τ) (input : TeleopInput K) :
    session.driveSpeed input =
      Parameters.filtered input.pad ⟨Parameters.leftStickY, by decide⟩ *
        if (session.script.updateSpeed input.pad).lowGear then 0.25 else 1 := by
  have speed : (session.robot.processedParams input.pad).getSpeed =
      Parameters.filtered input.pad ⟨Parameters.leftStickY, by decide⟩ :=
    session.robot.getAxisValue_processedParams input.pad _
  rw [driveSpeed, TeleopScript.driveSpeed, speed]
  split
  · rfl
  · rw [mul_one]

variable [FloorRing K]

section Gear

theorem lowGear_tick (platform : Platform K τ π) (session : TeleopSession K τ)
    (input : TeleopInput K) :
    (session.tick platform input).script.lowGear = true ↔
      input.ShiftsDown ∨ session.script.lowGear = true ∧ ¬ input.ShiftsUp := by
  obtain ⟨-, scriptEq, -⟩ := session.tick_spec platform input
  rw [scriptEq, respond, TeleopInput.ShiftsDown, TeleopInput.ShiftsUp]
  cases connected : input.pad.connected with
  | false => simp
  | true =>
      rw [if_pos rfl, TeleopScript.lowGear_teleopRun, TeleopScript.lowGear_updateSpeed]
      cases input.pad.B <;> cases input.pad.X <;> simp

theorem lowGear_foldl_tick (platform : Platform K τ π) (robot : RobotMain K τ) (config : Config K)
    (inputs : List (TeleopInput K)) :
    (inputs.foldl (tick platform) (begin robot config)).script.lowGear = true ↔
      TeleopInput.InLowGear inputs := by
  obtain ⟨-, scriptEq, -⟩ := begin_spec robot config
  exact flag_foldl_iff (tick platform) (fun session => session.script.lowGear = true)
    TeleopInput.ShiftsDown TeleopInput.ShiftsUp (lowGear_tick platform)
    (by simp [scriptEq, TeleopScript.load]) inputs

open Classical in
/-- **Gears.** In every Teleop session, a tick with the controller drives with
the filtered left stick, at a quarter of it if and only if B was down in some
tick of the session up to this one and X was not down without B in a tick
since, and with the filtered right stick.  The next session begins in the high
gear. -/
theorem drives_in_chosen_gear (platform : Platform K τ π) (robot : RobotMain K τ)
    (config : Config K) (inputs : List (TeleopInput K)) (input : TeleopInput K)
    (connected : input.pad.connected = true) :
    let session := inputs.foldl (tick platform) (begin robot config)
    (session.tick platform input).robot.drivetrain =
      session.robot.drivetrain.driveNormalized input.now
        (Parameters.filtered input.pad ⟨Parameters.leftStickY, by decide⟩ *
          if TeleopInput.InLowGear (inputs ++ [input]) then 0.25 else 1)
        (Parameters.filtered input.pad ⟨Parameters.rightStickX, by decide⟩) := by
  intro session
  have gear := lowGear_foldl_tick platform robot config (inputs ++ [input])
  obtain ⟨-, scriptEq, -⟩ := session.tick_spec platform input
  rw [List.foldl_append, List.foldl_cons, List.foldl_nil, scriptEq, respond, if_pos connected,
    TeleopScript.lowGear_teleopRun] at gear
  have factor : (if (session.script.updateSpeed input.pad).lowGear then 0.25 else 1 : K) =
      if TeleopInput.InLowGear (inputs ++ [input]) then 0.25 else 1 :=
    if_congr gear rfl rfl
  rw [session.drivetrain_tick_of_connected platform connected, driveSpeed_eq, factor,
    driveRotation_eq]

/-- A second tick on the bench with the left stick pushed, after a tick with B. -/
theorem drives_in_chosen_gear_after_shift :
    let shift : TeleopInput Rat :=
      ⟨{ GamepadReading.bench true with rawButton := fun button => button = 2 }, 1⟩
    let session := [shift].foldl (tick .bench)
      (begin (.create .bench .bench 0 (.bench (.boolean true))) .bench)
    (session.tick .bench (stickInput true 2)).robot.drivetrain =
      session.robot.drivetrain.driveNormalized 2
        (Parameters.filtered (stickInput true 2).pad ⟨Parameters.leftStickY, by decide⟩ * 0.25)
        (Parameters.filtered (stickInput true 2).pad ⟨Parameters.rightStickX, by decide⟩) := by
  intro shift session
  have low : TeleopInput.InLowGear ([shift] ++ [stickInput true 2]) := by
    refine ⟨[], shift, [stickInput true 2], rfl, ⟨rfl, by decide⟩, ?_⟩
    simp [TeleopInput.ShiftsUp, stickInput, GamepadReading.bench, GamepadReading.X]
  have drives := drives_in_chosen_gear .bench
    (.create .bench .bench 0 (.bench (.boolean true))) .bench [shift] (stickInput true 2) rfl
  rw [if_pos low] at drives
  exact drives

end Gear

end TeleopSession

namespace Drivetrain

open SlewRate

variable {K τ π : Type*} [Field K] [LinearOrder K] [IsStrictOrderedRing K] [FloorRing K]

/-- Asking the limiters on the way to the same targets changes nothing. -/
theorem ReadyAt.driveNormalized_driveNormalized {config : Config K} {isReal : Bool}
    {expLog : K → K → K} {now later : K} {drivetrain : Drivetrain K}
    (ready : ReadyAt config isReal expLog now drivetrain) (forward : now ≤ later)
    (speed rotation : K) :
    (drivetrain.driveNormalized now speed rotation).driveNormalized later speed rotation =
      drivetrain.driveNormalized later speed rotation := by
  have settings := (settings_driveNormalized drivetrain now speed rotation).trans ready.settings_eq
  have rate : (0 : K) ≤ 3.0 := by norm_num
  have next : ReadyAt config isReal expLog later (drivetrain.driveNormalized now speed rotation) :=
    ⟨settings, forward, forward⟩
  have merged {value prevTime : K} (target : K) (before : prevTime ≤ now) :
      approach (approach value target (3.0 * (now - prevTime))) target (3.0 * (later - now)) =
        approach value target (3.0 * (later - prevTime)) := by
    rw [approach_approach (mul_nonneg rate (sub_nonneg.mpr before))
      (mul_nonneg rate (sub_nonneg.mpr forward)), ← mul_add, add_comm, sub_add_sub_cancel]
  rw [next.driveNormalized_eq, (ready.mono forward).driveNormalized_eq, ready.driveNormalized_eq]
  simp only [speedTarget, rotationTarget, merged _ ready.speedTime, merged _ ready.rotTime]

theorem ReadyAt.foldl_driveNormalized {config : Config K} {isReal : Bool} {expLog : K → K → K}
    {drivetrain : Drivetrain K} {readings : List K} (nonempty : readings ≠ [])
    (ready : ∀ now ∈ readings, ReadyAt config isReal expLog now drivetrain)
    (ordered : readings.Pairwise (· ≤ ·)) (speed rotation : K) :
    readings.foldl (fun drivetrain now => drivetrain.driveNormalized now speed rotation)
        drivetrain =
      drivetrain.driveNormalized (readings.getLast nonempty) speed rotation := by
  induction readings using List.reverseRecOn with
  | nil => contradiction
  | append_singleton readings last ih =>
      rw [List.foldl_append, List.foldl_cons, List.foldl_nil, List.getLast_append_singleton]
      rcases eq_or_ne readings [] with rfl | before
      · rfl
      · obtain ⟨early, -, across⟩ := List.pairwise_append.mp ordered
        have inside := List.getLast_mem before
        rw [ih before (fun now member => ready now (by simp [member])) early]
        exact (ready _ (List.mem_append_left _ inside)).driveNormalized_driveNormalized
          (across _ inside last (by simp)) speed rotation

/-- **Held sticks.** From every state that the robot program reaches, driving
with a constant speed and a constant rotation at any number of later times
leaves the drivetrain as a single call at the last of them does: what it drives
with does not depend on how often, or how regularly, the ticks came. -/
theorem held_driving_independent_of_ticks (platform : Platform K τ π)
    (system : TimedRobot.Reached platform) (speed rotation : K) (readings : List K)
    (nonempty : readings ≠ []) (ordered : readings.Pairwise (· ≤ ·))
    (clock : ∀ now ∈ readings, system.val.robot.drivetrain.speedLimiter.prevTime ≤ now ∧
      system.val.robot.drivetrain.rotLimiter.prevTime ≤ now) :
    readings.foldl (fun drivetrain now => drivetrain.driveNormalized now speed rotation)
        system.val.robot.drivetrain =
      system.val.robot.drivetrain.driveNormalized (readings.getLast nonempty) speed rotation := by
  obtain ⟨config, settings⟩ := TimedRobot.drivetrain_settings_of_reachable system.property
  have ready : ∀ now ∈ readings,
      ReadyAt config platform.isReal platform.expLog now system.val.robot.drivetrain := by
    intro now member
    obtain ⟨speedTime, rotTime⟩ := clock now member
    exact ⟨settings, speedTime, rotTime⟩
  exact ReadyAt.foldl_driveNormalized nonempty ready ordered speed rotation

/-- Three ticks on the bench against one. -/
theorem held_driving_independent_of_ticks_bench :
    let drivetrain := (TimedRobot.boot Platform.bench .bench 0 (.bench (.boolean true))).robot.drivetrain
    [0.1, 0.11, 0.3].foldl (fun drivetrain now => drivetrain.driveNormalized now 1 (-1)) drivetrain =
      drivetrain.driveNormalized 0.3 1 (-1) :=
  held_driving_independent_of_ticks .bench
    ⟨.boot .bench .bench 0 (.bench (.boolean true)), .bench, 0, .bench (.boolean true), [], rfl⟩ 1
    (-1) [0.1, 0.11, 0.3] (by simp) (by decide +kernel) (by decide +kernel)

/-- Limiters that hold at most one reach a target in range within two thirds of
a second. -/
theorem HoldsAtMost.setPoint_of_late {config : Config K} {isReal : Bool} {expLog : K → K → K}
    {start now : K} {drivetrain : Drivetrain K}
    (holds : HoldsAtMost config isReal expLog start 1 drivetrain) (unit : InUnitRange expLog config)
    (late : start + 2.0 / 3.0 ≤ now) (speed : K) {rotation : K} (within : |rotation| ≤ 1) :
    (drivetrain.driveNormalized now speed rotation).setPoint =
      ⟨-drivetrain.speedTarget speed * drivetrain.maxSpeed,
        -drivetrain.rotationTarget rotation * drivetrain.maxAngularSpeed⟩ := by
  have throttle : drivetrain.rotationThrottle =
      config.number "drivetrain" "rotation_throttle" 0 :=
    congrArg Settings.rotationThrottle holds.settings_eq
  have positive : (0 : K) < 3.0 := by norm_num
  have third : (0 : K) ≤ 2.0 / 3.0 := by positivity
  have enough {prevTime : K} (before : prevTime ≤ start) : 2.0 ≤ 3.0 * (now - prevTime) := by
    rw [← div_le_iff₀' positive]
    exact (le_sub_iff_add_le'.mpr late).trans (sub_le_sub_left before now)
  have reached {target value prevTime : K} (targetLe : |target| ≤ 1) (valueLe : |value| ≤ 1)
      (before : prevTime ≤ start) :
      approach value target (3.0 * (now - prevTime)) = target := by
    have apart : |target - value| ≤ 2.0 := by
      calc |target - value| ≤ |target| + |value| := abs_sub _ _
        _ ≤ 1 + 1 := add_le_add targetLe valueLe
        _ = 2.0 := by norm_num
    exact approach_eq_target (apart.trans (enough before))
  have speedTarget := abs_speedTarget_le holds.speedRange_eq unit.skew speed
  have rotationTarget : |drivetrain.rotationTarget rotation| ≤ 1 :=
    abs_rotationTarget_le (unit.throttle_nonneg.trans_eq throttle.symm)
      (throttle.trans_le unit.throttle_le) within
  rw [(holds.toReadyAt.mono ((le_add_of_nonneg_right third).trans late)).driveNormalized_eq]
  dsimp only
  rw [reached speedTarget holds.speed holds.speedTime, reached rotationTarget holds.rot holds.rotTime]

end Drivetrain

/-- The controller is connected, the sticks that drive count as in the held
tick, and the buttons of the gears are as in it. -/
structure TeleopInput.Holds {K : Type*} [Field K] [LinearOrder K] (held input : TeleopInput K) :
    Prop where
  connected : input.pad.connected = true
  speed : Parameters.filtered input.pad ⟨Parameters.leftStickY, by decide⟩ =
    Parameters.filtered held.pad ⟨Parameters.leftStickY, by decide⟩
  rotation : Parameters.filtered input.pad ⟨Parameters.rightStickX, by decide⟩ =
    Parameters.filtered held.pad ⟨Parameters.rightStickX, by decide⟩
  b : input.pad.B = held.pad.B
  x : input.pad.X = held.pad.X

namespace TeleopSession

open Runs SlewRate Drivetrain

variable {K τ π : Type*} [Field K] [LinearOrder K]

section Held

variable {session : TeleopSession K τ} {held input : TeleopInput K}

theorem driveRotation_of_holds (holds : held.Holds input) :
    session.driveRotation input = session.driveRotation held := by
  rw [driveRotation_eq, driveRotation_eq, holds.rotation]

theorem driveSpeed_of_lowGear {other : TeleopSession K τ}
    (speed : Parameters.filtered input.pad ⟨Parameters.leftStickY, by decide⟩ =
      Parameters.filtered held.pad ⟨Parameters.leftStickY, by decide⟩)
    (gear : (other.script.updateSpeed input.pad).lowGear =
      (session.script.updateSpeed held.pad).lowGear) :
    other.driveSpeed input = session.driveSpeed held := by
  rw [driveSpeed_eq, driveSpeed_eq, gear, speed]

theorem driveSpeed_of_holds (holds : held.Holds input) :
    session.driveSpeed input = session.driveSpeed held :=
  driveSpeed_of_lowGear holds.speed (by
    rw [TeleopScript.lowGear_updateSpeed, TeleopScript.lowGear_updateSpeed, holds.b, holds.x])

variable [FloorRing K]

/-- The gear that a tick chooses is kept while its buttons are. -/
theorem driveSpeed_tick_of_holds (platform : Platform K τ π) (holds : held.Holds input) :
    (session.tick platform input).driveSpeed held = session.driveSpeed held := by
  refine driveSpeed_of_lowGear rfl ?_
  obtain ⟨-, scriptEq, -⟩ := session.tick_spec platform input
  rw [scriptEq, respond, if_pos holds.connected, TeleopScript.lowGear_updateSpeed,
    TeleopScript.lowGear_teleopRun, TeleopScript.lowGear_updateSpeed,
    TeleopScript.lowGear_updateSpeed, holds.b, holds.x]
  cases held.pad.B <;> cases held.pad.X <;> rfl

variable [IsStrictOrderedRing K]

/-- Any number of held ticks drive as the last of them would have alone. -/
theorem drivetrain_foldl_tick_of_holds (platform : Platform K τ π) {config : Config K}
    {isReal : Bool} {expLog : K → K → K} {now : K}
    (ready : ReadyAt config isReal expLog now session.robot.drivetrain)
    {inputs : List (TeleopInput K)} (holds : ∀ input ∈ inputs, held.Holds input)
    (holdsLast : held.Holds input)
    (ordered : (now :: (inputs ++ [input]).map TeleopInput.now).Pairwise (· ≤ ·)) :
    ((inputs.foldl (tick platform) session).tick platform input).robot.drivetrain =
      session.robot.drivetrain.driveNormalized input.now (session.driveSpeed held)
        (session.driveRotation held) := by
  induction inputs generalizing session now with
  | nil =>
      rw [List.foldl_nil, session.drivetrain_tick_of_connected platform holdsLast.connected,
        driveSpeed_of_holds holdsLast, driveRotation_of_holds holdsLast]
  | cons first rest ih =>
      obtain ⟨here, later⟩ := List.forall_mem_cons.mp holds
      obtain ⟨fromNow, ordered⟩ := List.pairwise_cons.mp ordered
      have atFirst : ReadyAt config isReal expLog first.now session.robot.drivetrain :=
        ready.mono (fromNow _ (by simp))
      have forward : first.now ≤ input.now :=
        (List.pairwise_cons.mp ordered).1 input.now (by simp)
      rw [List.foldl_cons, ih (readyAt_tick platform atFirst le_rfl) later ordered,
        driveSpeed_tick_of_holds platform here, driveRotation_eq, ← driveRotation_eq session,
        session.drivetrain_tick_of_connected platform here.connected, driveSpeed_of_holds here,
        driveRotation_of_holds here]
      exact atFirst.driveNormalized_driveNormalized forward _ _

/-- What the robot drives with once the limiters have reached the sticks. -/
def heldSetPoint (session : TeleopSession K τ) (held : TeleopInput K) : SetPoint K :=
  let drivetrain := session.robot.drivetrain
  ⟨-drivetrain.speedTarget (session.driveSpeed held) * drivetrain.maxSpeed,
    -drivetrain.rotationTarget (session.driveRotation held) * drivetrain.maxAngularSpeed⟩

/-- **Held sticks are followed.** After any run of Teleop sessions, from a tick
on in which the controller is connected and the sticks and the gear are held,
every tick two thirds of a second later drives with exactly what the sticks ask
for, whatever the ticks in between were. -/
theorem held_sticks_are_followed (platform : Platform K τ π)
    (expLog : ∀ skew, 0 < skew → SkewInRange platform.expLog skew) (config : Config K)
    (skew : 0 < config.number "gamepad" "skew_factor" 1)
    (throttle_nonneg : 0 ≤ config.number "drivetrain" "rotation_throttle" 0)
    (throttle_le : config.number "drivetrain" "rotation_throttle" 0 ≤ 1) (now : K)
    (reads : ModeReads τ) (past : List (Event K τ π))
    (runs : ∀ event ∈ past, event.RunsTeleopBot) (session : TeleopSession K τ)
    (ran : TimedRobot.run platform (.boot platform config now reads) past =
      .ok ⟨session.robot, some .teleop⟩)
    (held : TeleopInput K) (inRange : held.pad.AxesInRange) (inputs : List (TeleopInput K))
    (holds : ∀ input ∈ held :: inputs, held.Holds input)
    (ordered : (now :: past.flatMap Event.readings ++
      (held :: inputs).map TeleopInput.now).Pairwise (· ≤ ·)) :
    ∀ taken ∈ steps (tick platform) session (held :: inputs),
      held.now + 2.0 / 3.0 ≤ taken.2.now →
        (taken.1.tick platform taken.2).robot.drivetrain.setPoint = session.heldSetPoint held := by
  obtain ⟨pastOrdered, laterOrdered, across⟩ := List.pairwise_append.mp ordered
  have unit : InUnitRange platform.expLog config := ⟨expLog _ skew, throttle_nonneg, throttle_le⟩
  have booted : HoldsAtMost config platform.isReal platform.expLog now 1
      (TimedRobot.boot platform config now reads).robot.drivetrain := by
    have created := congrArg Actuators.drivetrain
      (RobotMain.toActuators_create platform config now reads)
    rw [TimedRobot.boot, created]
    exact .create now
  have reached : HoldsAtMost config platform.isReal platform.expLog held.now 1
      session.robot.drivetrain :=
    TimedRobot.holdsAtMost_of_run unit runs booted ran pastOrdered
      fun reading member => across reading member held.now (by simp)
  rintro ⟨before, input⟩ member late
  obtain ⟨first, rest, split, rfl⟩ := mem_steps_iff.mp member
  have holdsInput : held.Holds input := holds input (by simp [split])
  have holdsFirst : ∀ earlier ∈ first, held.Holds earlier :=
    fun earlier member => holds earlier (by simp [split, member])
  have firstOrdered :
      (held.now :: (first ++ [input]).map TeleopInput.now).Pairwise (· ≤ ·) := by
    have fromHeld : ∀ taken ∈ held :: inputs, held.now ≤ taken.now := by
      refine List.forall_mem_cons.mpr ⟨le_rfl, fun taken member => ?_⟩
      exact (List.pairwise_cons.mp laterOrdered).1 _ (List.mem_map_of_mem member)
    rw [split] at fromHeld laterOrdered
    have upToInput : (first ++ [input]).Sublist (first ++ input :: rest) :=
      List.sublist_append_iff.mpr ⟨first, [input], rfl, .refl _, by simp⟩
    refine List.pairwise_cons.mpr
      ⟨fun time member => ?_, laterOrdered.sublist (upToInput.map TeleopInput.now)⟩
    obtain ⟨taken, inside, rfl⟩ := List.mem_map.mp member
    exact fromHeld taken (upToInput.subset inside)
  rw [drivetrain_foldl_tick_of_holds platform reached.toReadyAt holdsFirst holdsInput firstOrdered]
  exact reached.setPoint_of_late unit late _ (session.abs_driveRotation_le inRange)

/-- A session on the bench that begins with the left stick pushed. -/
theorem held_sticks_are_followed_bench :
    let session := begin (.create .bench .bench 0 (.bench (.boolean true))) .bench
    ∀ taken ∈ steps (tick .bench) session
        [stickInput true 1, stickInput true 1.1, stickInput true 2],
      1 + 2.0 / 3.0 ≤ taken.2.now →
        (taken.1.tick .bench taken.2).robot.drivetrain.setPoint =
          session.heldSetPoint (stickInput true 1) := by
  set robot : RobotMain Rat Unit := .create .bench .bench 0 (.bench (.boolean true))
  have squares (skew : Rat) (_ : 0 < skew) : SkewInRange Platform.bench.expLog skew :=
    fun distance _ small => ⟨mul_self_nonneg distance, by
      exact mul_le_one₀ small (by positivity) small⟩
  have holds (now : Rat) : (stickInput true 1).Holds (stickInput true now) :=
    ⟨rfl, rfl, rfl, rfl, rfl⟩
  have inRange : (stickInput true 1).pad.AxesInRange := by
    intro axis
    simp only [stickInput]
    split <;> simp
  have ran : TimedRobot.run Platform.bench (.boot .bench .bench 0 (.bench (.boolean true)))
      [.teleopInit (TeleopScript.sessionStart .bench)] =
      .ok ⟨(begin robot .bench).robot, some .teleop⟩ :=
    Runs.foldlM_cons_ok.mpr ⟨⟨(begin robot .bench).robot, some .teleop⟩,
      TimedRobot.step_ok_iff.mpr ⟨rfl, (begin_spec robot .bench).1⟩, rfl⟩
  refine held_sticks_are_followed .bench squares .bench (by decide +kernel) (by decide +kernel)
    (by decide +kernel) 0 (.bench (.boolean true)) _ ?_ _ ran (stickInput true 1) inRange
    [stickInput true 1.1, stickInput true 2] (by simp [holds]) (by decide +kernel)
  exact List.forall_mem_cons.mpr ⟨rfl, by simp⟩

end Held

end TeleopSession

end RobotFirmware
