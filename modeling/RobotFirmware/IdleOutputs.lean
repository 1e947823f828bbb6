import RobotFirmware.FailSafe

/-!
# The motors of an idle shooter

`process` commands the motors for the state it finds and updates the state
afterwards.  The calls that change the state send nothing themselves.  An idle
shooter has therefore been switched off only once a `process` call has begun
idle, and the last call of a shot returns idle with its motors still running.
-/

namespace RobotFirmware

namespace Shooter

open Runs

variable {K : Type*} [Field K] [LinearOrder K]

/-- The call ends a shot: it serves the last tick. -/
def EndsShot (shooter : Shooter K) : Prop :=
  shooter.state = .shooting ∧ shooter.tick ≤ 1

theorem process_state_eq_idle_iff (shooter : Shooter K) :
    shooter.process.state = .idle ↔ shooter.state = .idle ∨ shooter.EndsShot := by
  cases state : shooter.state with
  | idle => simp [process_idle state, state]
  | loading => simp [process_loading state, state, EndsShot]
  | shooting =>
      rw [process_shooting state]
      have last : shooter.tick - 1 ≤ 0 ↔ shooter.tick ≤ 1 := by omega
      simp [EndsShot, state, last]

/-- The call asks for nothing that an idle shooter would accept. -/
def Call.KeepsIdle : Call K → Prop
  | .intake => False
  | .shoot => False
  | _ => True

def Call.isProcess : Call K → Bool
  | .process => true
  | _ => false

variable [FloorRing K]

theorem idle_perform {shooter : Shooter K} (idle : shooter.state = .idle) {call : Call K}
    (kept : call.KeepsIdle) :
    (shooter.perform call).state = .idle ∧
      (shooter.perform call).motors =
        if call.isProcess then .pair 0 0 else shooter.motors := by
  cases call with
  | intake => exact kept.elim
  | shoot => exact kept.elim
  | process =>
      rw [perform, process_idle idle]
      exact ⟨idle, rfl⟩
  | stop => exact ⟨rfl, rfl⟩
  | reset config => exact ⟨rfl, rfl⟩
  | setShootLevel level => exact ⟨idle, rfl⟩

/-- An idle shooter that is asked for nothing stays idle, and its motors are
off from the next `process` call on. -/
theorem idle_foldl_perform {shooter : Shooter K} (idle : shooter.state = .idle)
    {later : List (Call K)} (kept : ∀ call ∈ later, call.KeepsIdle) :
    (later.foldl perform shooter).state = .idle ∧
      (later.foldl perform shooter).motors =
        if later.any Call.isProcess then .pair 0 0 else shooter.motors := by
  induction later generalizing shooter with
  | nil => exact ⟨idle, rfl⟩
  | cons call rest ih =>
      obtain ⟨stillIdle, here⟩ := idle_perform idle (kept call (by simp))
      obtain ⟨atEnd, motors⟩ := ih stillIdle (fun later member => kept later (by simp [member]))
      refine ⟨atEnd, ?_⟩
      rw [List.foldl_cons, motors, here, List.any_cons]
      cases call.isProcess <;> simp

/-- **Idle outputs.** In every run, a `process` call that returns idle has
switched all four motors off if and only if it began idle.  Otherwise it has
ended a shot: the primary motors have the positive voltage of the shot, and
the secondary motors have it too or keep what they had.  Until an intake or a
shot is requested the shooter stays idle, and its motors keep these voltages
up to the next `process` call and are off afterwards. -/
theorem idle_outputs [IsStrictOrderedRing K] (config : Config K) (calls : List (Call K))
    (idle : (calls.foldl perform (create config)).process.state = .idle) :
    let before := calls.foldl perform (create config)
    let after := before.process
    (after.motors = .pair 0 0 ↔ before.state = .idle) ∧
      (before.state ≠ .idle → before.EndsShot ∧ 0 < before.shootVolts ∧
        (after.motors = .pair before.shootVolts before.shootVolts ∨
          after.motors =
            { before.motors with
              primaryTop := before.shootVolts
              primaryBottom := before.shootVolts })) ∧
        ∀ later : List (Call K), (∀ call ∈ later, call.KeepsIdle) →
          (later.foldl perform after).state = .idle ∧
            (later.foldl perform after).motors =
              if later.any Call.isProcess then .pair 0 0 else after.motors := by
  intro before after
  have positive : 0 < before.shootVolts := (powersInRange_of_calls config calls).shootVolts_pos
  refine ⟨?_, ?_, fun later kept => idle_foldl_perform idle kept⟩
  · constructor
    · intro off
      by_contra notIdle
      obtain ⟨shooting, -⟩ := ((process_state_eq_idle_iff before).mp idle).resolve_left notIdle
      have running : after.motors.primaryTop = before.shootVolts := by
        simp only [after, process_shooting shooting, shotMotors]
        split <;> rfl
      rw [off] at running
      exact positive.ne running
    · intro wasIdle
      simp only [after, process_idle wasIdle]
  · intro notIdle
    have ends := ((process_state_eq_idle_iff before).mp idle).resolve_left notIdle
    refine ⟨ends, positive, ?_⟩
    simp only [after, process_shooting ends.1, shotMotors]
    split
    · exact .inl rfl
    · exact .inr rfl

/-- A shot of two calls returns idle with its motors running. -/
theorem finished_shot_leaves_motors_running :
    ¬ ∀ (config : Config Rat) (calls : List (Call Rat)),
      (calls.foldl perform (create config)).process.state = .idle →
        (calls.foldl perform (create config)).process.motors = .pair 0 0 := by
  intro off
  exact absurd (off .bench [.shoot, .process] (by decide +kernel)) (by decide +kernel)

theorem idle_outputs_of_single_shot :
    let before := [Call.shoot, .process].foldl perform (create .bench)
    let after := before.process
    (after.motors = .pair 0 0 ↔ before.state = .idle) ∧
      (before.state ≠ .idle → before.EndsShot ∧ 0 < before.shootVolts ∧
        (after.motors = .pair before.shootVolts before.shootVolts ∨
          after.motors =
            { before.motors with
              primaryTop := before.shootVolts
              primaryBottom := before.shootVolts })) ∧
        ∀ later : List (Call Rat), (∀ call ∈ later, call.KeepsIdle) →
          (later.foldl perform after).state = .idle ∧
            (later.foldl perform after).motors =
              if later.any Call.isProcess then .pair 0 0 else after.motors :=
  idle_outputs .bench [.shoot, .process] (by decide +kernel)

end Shooter

end RobotFirmware
