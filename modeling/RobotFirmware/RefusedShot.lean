import RobotFirmware.FailSafe

/-!
# Shots that are refused

The binding `cxx.shooter.shoot` sets the shoot level and then asks for a shot.
Only the second of the two depends on the state of the shooter: a shooter that
is busy refuses the shot and keeps the level.  The level is read again by every
call of a running shot, so whether a refused request can be seen depends on the
state and on what is called next.
-/

namespace RobotFirmware

namespace Shooter

open Runs

/-- The calls that reach a shooter through its binding and through the robot. -/
inductive BoundCall (K : Type*)
  | intake
  | shoot (amount : K)
  | stop
  | reset (config : Config K)
  | process

namespace BoundCall

variable {K : Type*}

/-- The calls of the class behind a call; `shoot` is the lambda of
`Shooter::bind`. -/
def calls : BoundCall K → List (Call K)
  | .intake => [.intake]
  | .shoot amount => [.setShootLevel amount, .shoot]
  | .stop => [.stop]
  | .reset config => [.reset config]
  | .process => [.process]

def isIntake : BoundCall K → Bool
  | .intake => true
  | _ => false

end BoundCall

/-- The calls begin with `process`, apart from intakes. -/
def ProcessedFirst {K : Type*} (calls : List (BoundCall K)) : Prop :=
  calls.find? (fun call => !call.isIntake) = some .process

variable {K : Type*}

/-- What can be seen of a shooter: its state, its counters and what its motors
were last sent. -/
def observed (shooter : Shooter K) : State × Int × Int × ShooterMotors K :=
  (shooter.state, shooter.tick, shooter.delay, shooter.motors)

variable [Field K] [LinearOrder K]

/-- The shooters differ in the shoot level at most, and a running shot has the
same output level in both. -/
structure SameApartFromLevel (shooter shooter' : Shooter K) : Prop where
  rest : shooter' = shooter.setShootLevel shooter'.shootLevel
  level : shooter.state = .shooting → shooter'.level = shooter.level

theorem SameApartFromLevel.refl (shooter : Shooter K) : SameApartFromLevel shooter shooter :=
  ⟨rfl, fun _ => rfl⟩

theorem SameApartFromLevel.observed_eq {shooter shooter' : Shooter K}
    (same : SameApartFromLevel shooter shooter') : shooter'.observed = shooter.observed := by
  rw [same.rest]
  rfl

theorem sameApartFromLevel_of_ne_shooting (shooter : Shooter K)
    (notShooting : shooter.state ≠ .shooting) (level : K) :
    SameApartFromLevel shooter (shooter.setShootLevel level) :=
  ⟨rfl, fun shooting => absurd shooting notShooting⟩

theorem SameApartFromLevel.process {shooter shooter' : Shooter K}
    (same : SameApartFromLevel shooter shooter') :
    SameApartFromLevel shooter.process shooter'.process := by
  obtain ⟨rest, level⟩ := same
  have stateEq : shooter'.state = shooter.state := by
    rw [rest]
    rfl
  cases state : shooter.state with
  | idle =>
      rw [process_idle state, process_idle (stateEq.trans state), rest]
      exact ⟨rfl, fun shooting => by simp [state] at shooting⟩
  | loading =>
      rw [process_loading state, process_loading (stateEq.trans state), rest]
      exact ⟨rfl, fun shooting => by simp [state] at shooting⟩
  | shooting =>
      have levelEq := level state
      have volts : shooter'.shootVolts = shooter.shootVolts := by
        rw [shootVolts, levelEq, rest]
        rfl
      have motors : shooter'.shotMotors = shooter.shotMotors := by
        rw [shotMotors, volts, rest]
        rfl
      rw [process_shooting state, process_shooting (stateEq.trans state), motors]
      refine ⟨?_, fun _ => levelEq⟩
      rw [rest]
      rfl

variable [FloorRing K]

def performBound (shooter : Shooter K) (call : BoundCall K) : Shooter K :=
  call.calls.foldl perform shooter

/-- A request that is made before some calls cannot be seen: not at once and
not after any of the calls. -/
def Unseen (shooter : Shooter K) (request : BoundCall K) (continuation : List (BoundCall K)) :
    Prop :=
  (shooter.performBound request).observed = shooter.observed ∧
    (outcomes performBound (shooter.performBound request) continuation).map
        (fun outcome => outcome.2.observed) =
      (outcomes performBound shooter continuation).map (fun outcome => outcome.2.observed)

theorem performBound_intake_of_ne_idle (shooter : Shooter K) (busy : shooter.state ≠ .idle) :
    shooter.performBound .intake = shooter := by
  simp [performBound, BoundCall.calls, perform, intake, busy]

theorem performBound_shoot_of_ne_idle {shooter : Shooter K} (busy : shooter.state ≠ .idle)
    (amount : K) : shooter.performBound (.shoot amount) = shooter.setShootLevel amount := by
  simp [performBound, BoundCall.calls, perform, shoot, setShootLevel, busy]

/-- Every call but `intake` and `process` makes the level of a running shot
irrelevant: it sets the level or leaves no shot running. -/
theorem sameApartFromLevel_performBound (shooter : Shooter K) (amount : K) {call : BoundCall K}
    (notIntake : call ≠ .intake) (notProcess : call ≠ .process) :
    SameApartFromLevel (shooter.performBound call)
      ((shooter.setShootLevel amount).performBound call) := by
  cases call with
  | intake => exact absurd rfl notIntake
  | process => exact absurd rfl notProcess
  | shoot level => exact .refl _
  | reset config => exact .refl _
  | stop => exact sameApartFromLevel_of_ne_shooting shooter.stop (by simp [stop]) amount

theorem SameApartFromLevel.performBound {shooter shooter' : Shooter K}
    (same : SameApartFromLevel shooter shooter') (call : BoundCall K) :
    SameApartFromLevel (shooter.performBound call) (shooter'.performBound call) := by
  by_cases process : call = .process
  · rw [process]
    exact same.process
  obtain ⟨rest, level⟩ := same
  generalize shooter'.shootLevel = amount at rest
  subst rest
  by_cases intake : call = .intake
  · have commutes : (shooter.setShootLevel amount).performBound .intake =
        (shooter.performBound .intake).setShootLevel amount := by
      simp only [Shooter.performBound, BoundCall.calls, List.foldl_cons, List.foldl_nil, perform,
        Shooter.intake, setShootLevel]
      split <;> rfl
    rw [intake, commutes]
    by_cases idle : shooter.state = .idle
    · have loads : (shooter.performBound .intake).state = .loading := by
        simp [Shooter.performBound, BoundCall.calls, perform, Shooter.intake, idle]
      exact sameApartFromLevel_of_ne_shooting _ (by simp [loads]) amount
    · rw [performBound_intake_of_ne_idle shooter idle]
      exact ⟨rfl, level⟩
  · exact sameApartFromLevel_performBound shooter amount intake process

/-- Shooters that are the same apart from the level cannot be told apart by
any calls. -/
theorem SameApartFromLevel.outcomes_eq {shooter shooter' : Shooter K}
    (same : SameApartFromLevel shooter shooter') (continuation : List (BoundCall K)) :
    (outcomes Shooter.performBound shooter' continuation).map (fun outcome => outcome.2.observed) =
      (outcomes Shooter.performBound shooter continuation).map
        (fun outcome => outcome.2.observed) := by
  refine (map_outcomes_eq Shooter.performBound SameApartFromLevel observed ?_ same continuation).symm
  intro shooter shooter' call same
  have next := same.performBound call
  exact ⟨next, next.observed_eq.symm⟩

/-- While a shot runs, another output level is seen by the first call that is
not refused, if this call is `process`. -/
theorem outcomes_eq_iff_of_shooting {shooter : Shooter K} (powered : shooter.shootPower ≠ 0)
    (shooting : shooter.state = .shooting) {amount : K}
    (differs : (shooter.setShootLevel amount).level ≠ shooter.level)
    (continuation : List (BoundCall K)) :
    (outcomes performBound (shooter.setShootLevel amount) continuation).map
          (fun outcome => outcome.2.observed) =
        (outcomes performBound shooter continuation).map (fun outcome => outcome.2.observed) ↔
      ¬ ProcessedFirst continuation := by
  induction continuation with
  | nil => simp [ProcessedFirst]
  | cons call rest ih =>
      by_cases process : call = .process
      · have seen : ((shooter.setShootLevel amount).performBound call).observed ≠
            (shooter.performBound call).observed := by
          intro equal
          have motors : ((shooter.setShootLevel amount).process).motors.primaryTop =
              shooter.process.motors.primaryTop := by
            rw [process] at equal
            exact congrArg (fun observed => observed.2.2.2.primaryTop) equal
          have sent (shooter : Shooter K) (shooting : shooter.state = .shooting) :
              shooter.process.motors.primaryTop = shooter.shootVolts := by
            simp only [process_shooting shooting, shotMotors]
            split <;> rfl
          rw [sent _ shooting, sent (shooter.setShootLevel amount) shooting] at motors
          exact differs (mul_left_cancel₀ powered motors)
        refine iff_of_false ?_ (by simp [ProcessedFirst, process, BoundCall.isIntake])
        intro equal
        exact seen (List.cons.inj equal).1
      · by_cases intake : call = .intake
        · have busy : shooter.state ≠ .idle := by simp [shooting]
          have refused := performBound_intake_of_ne_idle shooter busy
          have refused' := performBound_intake_of_ne_idle (shooter.setShootLevel amount) busy
          have skipped : ProcessedFirst (.intake :: rest) ↔ ProcessedFirst rest := by
            simp [ProcessedFirst, BoundCall.isIntake]
          rw [intake, outcomes_cons, outcomes_cons, refused, refused', List.map_cons, List.map_cons,
            skipped, ← ih]
          constructor
          · intro equal
            exact (List.cons.inj equal).2
          · intro equal
            rw [equal]
            rfl
        · have same := sameApartFromLevel_performBound shooter amount intake process
          have notIntake : (!call.isIntake) = true := by
            cases call <;> simp [BoundCall.isIntake] at intake ⊢
          refine iff_of_true ?_ (by simp [ProcessedFirst, notIntake, process])
          simp only [outcomes_cons, List.map_cons, same.observed_eq, same.outcomes_eq]

/-- Whether a busy shooter shows a refused request is decided by the first
call that is not refused as well. -/
theorem unseen_iff [IsStrictOrderedRing K] {shooter : Shooter K} (inRange : shooter.PowersInRange)
    (busy : shooter.state ≠ .idle) (amount : K) (continuation : List (BoundCall K)) :
    shooter.Unseen (.shoot amount) continuation ↔
      shooter.state = .loading ∨ (shooter.setShootLevel amount).level = shooter.level ∨
        ¬ ProcessedFirst continuation := by
  have refused := performBound_shoot_of_ne_idle busy amount
  have unseen_of_same {level : K} (same : SameApartFromLevel shooter (shooter.setShootLevel level)) :
      shooter.Unseen (.shoot level) continuation := by
    rw [Unseen, performBound_shoot_of_ne_idle busy]
    exact ⟨same.observed_eq, same.outcomes_eq continuation⟩
  cases state : shooter.state with
  | idle => exact absurd state busy
  | loading =>
      have same := sameApartFromLevel_of_ne_shooting shooter (by simp [state]) amount
      exact iff_of_true (unseen_of_same same) (.inl rfl)
  | shooting =>
      by_cases levelEq : (shooter.setShootLevel amount).level = shooter.level
      · exact iff_of_true (unseen_of_same ⟨rfl, fun _ => levelEq⟩) (.inr (.inl levelEq))
      · have powered : shooter.shootPower ≠ 0 := (zero_lt_one.trans_le inRange.shoot).ne'
        rw [Unseen, refused, outcomes_eq_iff_of_shooting powered state levelEq continuation]
        simp only [levelEq, reduceCtorEq, false_or]
        exact ⟨fun unseen => unseen.2, fun hidden => ⟨rfl, hidden⟩⟩

/-- **Refused shots.** A busy shooter in any situation its calls can lead to
does not show a refused request for a shot, whatever is called afterwards, if
and only if it is loading, or the requested level gives the same output, or the
first call that is not an intake is something other than `process`. -/
theorem refused_shot_unseen_iff [IsStrictOrderedRing K] (config : Config K)
    (calls : List (Call K)) (busy : (calls.foldl perform (create config)).state ≠ .idle)
    (amount : K) (continuation : List (BoundCall K)) :
    let shooter := calls.foldl perform (create config)
    shooter.Unseen (.shoot amount) continuation ↔
      shooter.state = .loading ∨ (shooter.setShootLevel amount).level = shooter.level ∨
        ¬ ProcessedFirst continuation :=
  unseen_iff (powersInRange_of_calls config calls) busy amount continuation

/-- A request for a fifth of the output lowers the voltage of a running shot. -/
theorem refused_shot_changes_voltage :
    ¬ ∀ (config : Config Rat) (calls : List (Call Rat)) (amount : Rat)
        (continuation : List (BoundCall Rat)),
      (calls.foldl perform (create config)).state ≠ .idle →
        (calls.foldl perform (create config)).Unseen (.shoot amount) continuation := by
  intro unseen
  have equal := (unseen .bench [.setShootLevel 1, .shoot] 0.2 [.process] (by decide +kernel)).2
  exact absurd equal (by decide +kernel)

theorem refused_shot_unseen_of_repeated_request :
    let shooter := [Call.setShootLevel 1, .shoot].foldl perform (create .bench)
    shooter.Unseen (.shoot 1) [.process] ↔
      shooter.state = .loading ∨ (shooter.setShootLevel 1).level = shooter.level ∨
        ¬ ProcessedFirst ([.process] : List (BoundCall Rat)) :=
  refused_shot_unseen_iff .bench [.setShootLevel 1, .shoot] (by decide +kernel) 1 [.process]

end Shooter

end RobotFirmware
