import Mathlib.Data.List.Basic
import Mathlib.Data.List.Induction
import Mathlib.Order.Basic

/-!
# Runs of deterministic systems

A system is a step function on states.  A run performs a list of actions from
a first state: it is `List.foldl` when every action has a next state, and
`List.foldlM` in `Except` when an action may end the run.  This file names the
individual steps of a run and gives the rules that carry a property of one
step to a whole run.
-/

namespace RobotFirmware.Runs

section Total

variable {σ ρ α : Type*}

/-- The steps of a run: each action together with the state it starts from. -/
def steps (step : σ → α → σ) : σ → List α → List (σ × α)
  | _, [] => []
  | state, action :: rest => (state, action) :: steps step (step state action) rest

@[simp]
theorem steps_nil (step : σ → α → σ) (state : σ) : steps step state [] = [] :=
  rfl

@[simp]
theorem steps_cons (step : σ → α → σ) (state : σ) (action : α) (rest : List α) :
    steps step state (action :: rest) =
      (state, action) :: steps step (step state action) rest :=
  rfl

theorem steps_append (step : σ → α → σ) (state : σ) (first second : List α) :
    steps step state (first ++ second) =
      steps step state first ++ steps step (first.foldl step state) second := by
  induction first generalizing state with
  | nil => rfl
  | cons action rest ih => simp [ih]

theorem mem_steps_iff {step : σ → α → σ} {state before : σ} {actions : List α}
    {action : α} :
    (before, action) ∈ steps step state actions ↔
      ∃ first second, actions = first ++ action :: second ∧
        before = first.foldl step state := by
  constructor
  · intro member
    induction actions generalizing state with
    | nil => simp at member
    | cons head rest ih =>
        rcases List.mem_cons.mp member with here | later
        · obtain ⟨rfl, rfl⟩ := Prod.mk.inj here
          exact ⟨[], rest, rfl, rfl⟩
        · obtain ⟨first, second, rfl, reached⟩ := ih later
          exact ⟨head :: first, second, rfl, reached⟩
  · rintro ⟨first, second, rfl, rfl⟩
    simp [steps_append]

theorem mem_of_mem_steps {step : σ → α → σ} {state : σ} {actions : List α} {taken : σ × α}
    (member : taken ∈ steps step state actions) : taken.2 ∈ actions := by
  obtain ⟨first, second, rfl, -⟩ := mem_steps_iff.mp member
  simp

/-- The actions of a run, each with the state that it leads to. -/
def outcomes (step : σ → α → σ) : σ → List α → List (α × σ)
  | _, [] => []
  | state, action :: rest =>
      (action, step state action) :: outcomes step (step state action) rest

@[simp]
theorem outcomes_nil (step : σ → α → σ) (state : σ) : outcomes step state [] = [] :=
  rfl

@[simp]
theorem outcomes_cons (step : σ → α → σ) (state : σ) (action : α) (rest : List α) :
    outcomes step state (action :: rest) =
      (action, step state action) :: outcomes step (step state action) rest :=
  rfl

theorem map_fst_outcomes (step : σ → α → σ) (state : σ) (actions : List α) :
    (outcomes step state actions).map Prod.fst = actions := by
  induction actions generalizing state with
  | nil => rfl
  | cons action rest ih => simp [ih]

/-- Two runs of the same actions that stay related, with related states giving
equal outputs, have the same outputs step by step. -/
theorem map_outcomes_eq {β : Type*} (step : σ → α → σ) (related : σ → σ → Prop)
    (output : σ → β)
    (preserved : ∀ state state' action, related state state' →
      related (step state action) (step state' action) ∧
        output (step state action) = output (step state' action))
    {state state' : σ} (start : related state state') (actions : List α) :
    (outcomes step state actions).map (fun outcome => output outcome.2) =
      (outcomes step state' actions).map (fun outcome => output outcome.2) := by
  induction actions generalizing state state' with
  | nil => rfl
  | cons action rest ih =>
      obtain ⟨next, equal⟩ := preserved state state' action start
      simp only [outcomes_cons, List.map_cons, equal, ih next]

/-- A flag that some actions set and others clear is set in the end if an action
has set it and none has cleared it since. -/
theorem flag_foldl_iff (step : σ → α → σ) (flag : σ → Prop) (sets clears : α → Prop)
    (effect : ∀ state action,
      flag (step state action) ↔ sets action ∨ flag state ∧ ¬ clears action)
    {state : σ} (start : ¬ flag state) (actions : List α) :
    flag (actions.foldl step state) ↔
      ∃ before action after, actions = before ++ action :: after ∧ sets action ∧
        ∀ later ∈ after, ¬ clears later := by
  induction actions using List.reverseRecOn with
  | nil => simp [start]
  | append_singleton actions last ih =>
      rw [List.foldl_append, List.foldl_cons, List.foldl_nil, effect, ih]
      constructor
      · rintro (sets | ⟨⟨before, action, after, rfl, sets, kept⟩, keeps⟩)
        · exact ⟨actions, last, [], rfl, sets, by simp⟩
        · refine ⟨before, action, after ++ [last], by simp, sets, ?_⟩
          rw [List.forall_mem_append]
          exact ⟨kept, by simpa using keeps⟩
      · rintro ⟨before, action, after, split, sets, kept⟩
        rcases List.eq_nil_or_concat after with rfl | ⟨between, other, rfl⟩
        · obtain ⟨-, rfl⟩ : actions = before ∧ last = action := by
            simpa using List.append_inj' split rfl
          exact .inl sets
        · rw [List.concat_eq_append, ← List.cons_append, ← List.append_assoc] at split
          obtain ⟨rfl, same⟩ := List.append_inj' split rfl
          obtain rfl : last = other := List.singleton_inj.mp same
          rw [List.concat_eq_append, List.forall_mem_append] at kept
          exact .inr ⟨⟨before, action, between, rfl, sets, kept.1⟩, kept.2 last (by simp)⟩

/-- An invariant kept by the steps that satisfy `allowed` holds after, and
before every step of, a run of allowed steps. -/
theorem invariant_of_steps (step : σ → α → σ) (invariant : σ → Prop)
    (allowed : σ → α → Prop)
    (preserved : ∀ state action, invariant state → allowed state action →
      invariant (step state action))
    {state : σ} (start : invariant state) {actions : List α}
    (allAllowed : ∀ taken ∈ steps step state actions, allowed taken.1 taken.2) :
    invariant (actions.foldl step state) ∧
      ∀ taken ∈ steps step state actions, invariant taken.1 := by
  induction actions generalizing state with
  | nil => exact ⟨start, by simp⟩
  | cons action rest ih =>
      have next : invariant (step state action) :=
        preserved state action start (allAllowed (state, action) (by simp))
      obtain ⟨atEnd, along⟩ := ih next
        (fun taken member => allAllowed taken (by simp [member]))
      refine ⟨atEnd, ?_⟩
      intro taken member
      rcases List.mem_cons.mp member with here | later
      · rw [here]
        exact start
      · exact along taken later

/-- If from an invariant each admitted step has a property exactly when it is
allowed, and steps with the property keep the invariant, then the steps of a
run all have the property exactly when they are all allowed. -/
theorem forall_steps_iff (step : σ → α → σ) (invariant : σ → Prop)
    (admitted property allowed : σ → α → Prop)
    (equivalent : ∀ state action, invariant state → admitted state action →
      (property state action ↔ allowed state action))
    (preserved : ∀ state action, invariant state → admitted state action →
      property state action → invariant (step state action))
    {state : σ} (start : invariant state) {actions : List α}
    (allAdmitted : ∀ taken ∈ steps step state actions, admitted taken.1 taken.2) :
    (∀ taken ∈ steps step state actions, property taken.1 taken.2) ↔
      ∀ taken ∈ steps step state actions, allowed taken.1 taken.2 := by
  induction actions generalizing state with
  | nil => simp
  | cons action rest ih =>
      simp only [steps_cons, List.forall_mem_cons] at allAdmitted ⊢
      obtain ⟨first, others⟩ := allAdmitted
      have here := equivalent state action start first
      constructor
      · rintro ⟨holds, later⟩
        have next := preserved state action start first holds
        exact ⟨here.mp holds, (ih next others).mp later⟩
      · rintro ⟨permitted, later⟩
        have holds := here.mpr permitted
        exact ⟨holds, (ih (preserved state action start first holds) others).mpr later⟩

/-- If each step stores its time, the times of a run are compared step by
step with the time stored. -/
theorem steps_of_isChain {β : Type*} (step : σ → α → σ) (stored : σ → β) (time : α → β)
    {related : β → β → Prop} (stores : ∀ state action, stored (step state action) = time action)
    {state : σ} {actions : List α}
    (chain : (stored state :: actions.map time).IsChain related) :
    ∀ taken ∈ steps step state actions, related (stored taken.1) (time taken.2) := by
  induction actions generalizing state with
  | nil => simp
  | cons action rest ih =>
      rw [List.map_cons, List.isChain_cons_cons] at chain
      obtain ⟨first, others⟩ := chain
      rw [← stores state action] at others
      simpa using ⟨first, fun before later => ih others (before, later)⟩

/-- Two systems driven by the same actions stay related along a run whose
steps, seen in the first system, are all allowed. -/
theorem related_of_steps (step : σ → α → σ) (step' : ρ → α → ρ)
    (related : σ → ρ → Prop) (allowed : σ → α → Prop)
    (preserved : ∀ state state' action, related state state' →
      allowed state action → related (step state action) (step' state' action))
    {state : σ} {state' : ρ} (start : related state state') {actions : List α}
    (allAllowed : ∀ taken ∈ steps step state actions, allowed taken.1 taken.2) :
    related (actions.foldl step state) (actions.foldl step' state') := by
  induction actions generalizing state state' with
  | nil => exact start
  | cons action rest ih =>
      exact ih
        (preserved state state' action start
          (allAllowed (state, action) (by simp)))
        (fun taken member => allAllowed taken (by simp [member]))

end Total

/-- A list along which a property, once lost, is not regained splits into a
part where it holds and a part where it fails. -/
theorem exists_split_of_pairwise {α : Type*} (property : α → Prop) {list : List α}
    (ordered : list.Pairwise fun first second => property second → property first) :
    ∃ front back, list = front ++ back ∧ (∀ a ∈ front, property a) ∧
      ∀ a ∈ back, ¬ property a := by
  induction list with
  | nil => exact ⟨[], [], rfl, by simp, by simp⟩
  | cons head rest ih =>
      obtain ⟨fromHead, ordered⟩ := List.pairwise_cons.mp ordered
      by_cases holds : property head
      · obtain ⟨front, back, rfl, inFront, inBack⟩ := ih ordered
        exact ⟨head :: front, back, rfl, by simpa [holds] using inFront, inBack⟩
      · refine ⟨[], head :: rest, rfl, by simp, ?_⟩
        intro a member
        rcases List.mem_cons.mp member with rfl | later
        · exact holds
        · exact fun regained => holds (fromHead a later regained)

section Partial

variable {σ ρ α ε : Type*}

theorem map_ok {f : σ → ρ} {result : Except ε σ} {last : ρ} :
    result.map f = .ok last ↔ ∃ state, result = .ok state ∧ f state = last := by
  cases result <;> simp [Except.map]

theorem foldlM_cons_ok {step : σ → α → Except ε σ} {state last : σ}
    {action : α} {rest : List α} :
    (action :: rest).foldlM step state = .ok last ↔
      ∃ next, step state action = .ok next ∧ rest.foldlM step next = .ok last := by
  rw [List.foldlM_cons]
  cases step state action <;> simp [bind, Except.bind]

theorem foldlM_append_ok {step : σ → α → Except ε σ} {state last : σ}
    {first second : List α} :
    (first ++ second).foldlM step state = .ok last ↔
      ∃ middle, first.foldlM step state = .ok middle ∧
        second.foldlM step middle = .ok last := by
  rw [List.foldlM_append]
  cases first.foldlM step state <;> simp [bind, Except.bind]

/-- A run fails exactly at the first step that fails. -/
theorem foldlM_error_iff {step : σ → α → Except ε σ} {state : σ} {actions : List α} {error : ε} :
    actions.foldlM step state = .error error ↔
      ∃ first action rest before, actions = first ++ action :: rest ∧
        first.foldlM step state = .ok before ∧ step before action = .error error := by
  constructor
  · intro failed
    induction actions generalizing state with
    | nil => cases failed
    | cons action rest ih =>
        rw [List.foldlM_cons] at failed
        cases taken : step state action with
        | error error' =>
            rw [taken] at failed
            obtain rfl : error' = error := by simpa [bind, Except.bind] using failed
            exact ⟨[], action, rest, state, rfl, rfl, taken⟩
        | ok next =>
            rw [taken] at failed
            obtain ⟨first, last, later, before, rfl, reached, fails⟩ := ih failed
            exact ⟨action :: first, last, later, before, rfl,
              foldlM_cons_ok.mpr ⟨next, taken, reached⟩, fails⟩
  · rintro ⟨first, action, rest, before, rfl, reached, fails⟩
    rw [List.foldlM_append, reached]
    simp [bind, Except.bind, List.foldlM_cons, fails]

theorem invariant_of_run (step : σ → α → Except ε σ) (invariant : σ → Prop)
    (allowed : α → Prop)
    (preserved : ∀ state action next, invariant state → allowed action →
      step state action = .ok next → invariant next)
    {state last : σ} {actions : List α} (start : invariant state)
    (allAllowed : ∀ action ∈ actions, allowed action)
    (run : actions.foldlM step state = .ok last) : invariant last := by
  induction actions generalizing state with
  | nil =>
      cases run
      exact start
  | cons action rest ih =>
      obtain ⟨next, taken, remaining⟩ := foldlM_cons_ok.mp run
      exact ih (preserved state action next start (allAllowed action (by simp)) taken)
        (fun later member => allAllowed later (by simp [member])) remaining

/-- If each step of a system is simulated by a step of another one that performs
the translated action, then so is each run. -/
theorem simulation_of_run {β : Type*} (step : σ → α → Except ε σ) (step' : ρ → β → Except ε ρ)
    (translate : α → β) (related : σ → ρ → Prop) (allowed : α → Prop)
    (simulates : ∀ state state' action next, related state state' → allowed action →
      step state action = .ok next →
        ∃ next', step' state' (translate action) = .ok next' ∧ related next next')
    {state last : σ} {state' : ρ} {actions : List α} (start : related state state')
    (allAllowed : ∀ action ∈ actions, allowed action)
    (run : actions.foldlM step state = .ok last) :
    ∃ last', (actions.map translate).foldlM step' state' = .ok last' ∧ related last last' := by
  induction actions generalizing state state' with
  | nil =>
      cases run
      exact ⟨state', rfl, start⟩
  | cons action rest ih =>
      obtain ⟨here, later⟩ := List.forall_mem_cons.mp allAllowed
      obtain ⟨next, taken, remaining⟩ := foldlM_cons_ok.mp run
      obtain ⟨next', taken', related'⟩ := simulates state state' action next start here taken
      obtain ⟨last', remaining', atEnd⟩ := ih related' later remaining
      exact ⟨last', foldlM_cons_ok.mpr ⟨next', taken', remaining'⟩, atEnd⟩

/-- The steps of a run up to where it ends: each action with the states before
and after it. -/
def transitions (step : σ → α → Except ε σ) : σ → List α → List (σ × α × σ)
  | _, [] => []
  | state, action :: rest =>
      match step state action with
      | .error _ => []
      | .ok next => (state, action, next) :: transitions step next rest

/-- What the steps of a run do to an observation, one after the other, is what
the run has done to it. -/
theorem fold_of_run {β ω : Type*} (step : σ → α → Except ε σ) (invariant : σ → Prop)
    (observe : σ → ω) (act : ω → β → ω) (effects : σ → α → List β)
    (preserved : ∀ state action next, invariant state → step state action = .ok next →
      invariant next ∧ observe next = (effects state action).foldl act (observe state))
    {state last : σ} {actions : List α} (start : invariant state)
    (run : actions.foldlM step state = .ok last) :
    observe last =
      ((transitions step state actions).flatMap fun taken => effects taken.1 taken.2.1).foldl act
        (observe state) := by
  induction actions generalizing state with
  | nil =>
      cases run
      rfl
  | cons action rest ih =>
      obtain ⟨next, taken, remaining⟩ := foldlM_cons_ok.mp run
      obtain ⟨kept, acts⟩ := preserved state action next start taken
      rw [ih kept remaining, acts, transitions, taken, List.flatMap_cons, List.foldl_append]

/-- What the steps of a run append to an output, one after the other, is what
the run has appended. -/
theorem output_of_run {β : Type*} (step : σ → α → Except ε σ) (invariant : σ → Prop)
    (output : σ → List β) (appended : σ → α → List β)
    (preserved : ∀ state action next, invariant state → step state action = .ok next →
      invariant next ∧ output next = output state ++ appended state action)
    {state last : σ} {actions : List α} (start : invariant state)
    (run : actions.foldlM step state = .ok last) :
    output last =
      output state ++
        (transitions step state actions).flatMap fun taken => appended taken.1 taken.2.1 := by
  have append (first second : List β) :
      second.foldl (fun output value => output ++ [value]) first = first ++ second := by
    induction second generalizing first with
    | nil => simp
    | cons value rest ih => simp [ih]
  rw [fold_of_run step invariant output (fun output value => output ++ [value]) appended ?_ start
    run, append]
  intro state action next kept taken
  rw [append]
  exact preserved state action next kept taken

/-- If from an invariant each step has a property exactly when it is allowed,
and steps with the property keep the invariant, then the steps of a run have
the property exactly when they are all allowed. -/
theorem forall_transitions_iff (step : σ → α → Except ε σ) (invariant : σ → Prop)
    (property allowed : σ × α × σ → Prop)
    (equivalent : ∀ state action next, invariant state → step state action = .ok next →
      (property (state, action, next) ↔ allowed (state, action, next)))
    (preserved : ∀ state action next, invariant state → step state action = .ok next →
      property (state, action, next) → invariant next)
    {state : σ} (start : invariant state) (actions : List α) :
    (∀ taken ∈ transitions step state actions, property taken) ↔
      ∀ taken ∈ transitions step state actions, allowed taken := by
  induction actions generalizing state with
  | nil => simp [transitions]
  | cons action rest ih =>
      cases taken : step state action with
      | error _ => simp [transitions, taken]
      | ok next =>
          have here := equivalent state action next start taken
          simp only [transitions, taken, List.forall_mem_cons]
          constructor
          · rintro ⟨holds, later⟩
            exact ⟨here.mp holds, (ih (preserved state action next start taken holds)).mp later⟩
          · rintro ⟨permitted, later⟩
            have holds := here.mpr permitted
            exact ⟨holds, (ih (preserved state action next start taken holds)).mpr later⟩

end Partial

end RobotFirmware.Runs
