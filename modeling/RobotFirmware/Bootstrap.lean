import RobotFirmware.Runs
import RobotFirmware.ModuleSearch

/-!
# Bootstrapping the interpreter

`bootstrap` sets the search path and loads the configuration into the Lua
state.  That it has been done is remembered in variables of the process, and
these outlive the state.  What a call reports is therefore true only if the
variables still describe the state that it finds.
-/

namespace RobotFirmware

namespace Scripting

open Runs

/-- The search path made from the name of a directory leads to a
`config.lua`. -/
def FindsConfig (host : LuaHost) (searchPath : String) : Prop :=
  (PackagePath.search host.fileExists searchPath "config").isSome

theorem search_withSearchQualifiers {host : LuaHost} {directory : String}
    (plain : PackagePath.IsPlain directory) (nonempty : directory ≠ "")
    (holds : host.holdsConfig directory = true) :
    PackagePath.search host.fileExists (withSearchQualifiers directory) "config" =
      some (directory ++ "/config.lua") := by
  have config : moduleFile false directory "config" = directory ++ "/config.lua" := by
    have noDots : PackagePath.fileNameOn (separator false) "config" = "config" := by decide
    simp only [moduleFile, noDots, String.append_assoc]
    rfl
  rw [PackagePath.search, candidates_withSearchQualifiers plain nonempty, config]
  exact List.find?_cons_of_pos holds

theorem findsConfig_of_plain {host : LuaHost} {directory : String}
    (plain : PackagePath.IsPlain directory) (nonempty : directory ≠ "")
    (holds : host.holdsConfig directory = true) :
    FindsConfig host (withSearchQualifiers directory) := by
  rw [FindsConfig, search_withSearchQualifiers plain nonempty holds]
  rfl

/-- The live state is set up: its path was made from the search directory, and
the global `config` is the module that was loaded. -/
def IsSetUp (scripting : Scripting) : Prop :=
  ∃ state file, scripting.state = some state ∧ scripting.searchDir ≠ "" ∧
    state.packagePath = withSearchQualifiers scripting.searchDir ∧
      state.loaded = some file ∧ state.config = some file

/-- What a call of `bootstrap` should report: `true` only with a live state
that is set up, and `false` only if setting the path to a directory with a
`config.lua` lets the next call succeed. -/
structure TellsTruth (host : LuaHost) (scripting : Scripting) : Prop where
  of_true : (scripting.bootstrap host).1 = .ok true → (scripting.bootstrap host).2.IsSetUp
  of_false : (scripting.bootstrap host).1 = .ok false →
    ∀ directory, directory ≠ "" → host.holdsConfig directory = true →
      (((scripting.bootstrap host).2.setPath directory).2.bootstrap host).1 = .ok true

/-- The `package.path` with which `bootstrap` looks for the configuration. -/
def bootstrapPath (host : LuaHost) (scripting : Scripting) (state : LuaState) : String :=
  if scripting.hasCustomPath ∨ bootstrapDirectory host = "" then
    state.packagePath
  else
    withSearchQualifiers (bootstrapDirectory host)

/-- This path is the saved one: `set_path` was called for the live state, or
`bootstrap` is about to call it. -/
def PathIsSaved (host : LuaHost) (scripting : Scripting) (state : LuaState) : Prop :=
  if scripting.hasCustomPath then
    state.packagePath = scripting.path
  else
    bootstrapDirectory host ≠ ""

/-- The variables of the process describe the live state.  If they say that it
was bootstrapped, its `config` was loaded; otherwise a configuration is found
by the saved path only, or if none is found, every directory with a
`config.lua` has a name that can stand in a path. -/
def DescribesState (host : LuaHost) (scripting : Scripting) : Prop :=
  if scripting.boostraped then
    ∃ state, scripting.state = some state ∧ state.config.isSome
  else
    ∀ state, scripting.state = some state →
      (FindsConfig host (scripting.bootstrapPath host state) →
        scripting.PathIsSaved host state) ∧
        (¬ FindsConfig host (scripting.bootstrapPath host state) →
          ∀ directory, host.holdsConfig directory = true → directory ≠ "" →
            ¬ PackagePath.IsPlain directory →
              FindsConfig host (withSearchQualifiers directory))

/-- What the functions keep true of the variables, if `bootstrap` tells the
truth. -/
structure Consistent (scripting : Scripting) : Prop where
  path : scripting.path = "" ∧ scripting.searchDir = "" ∨
    scripting.searchDir ≠ "" ∧ scripting.path = withSearchQualifiers scripting.searchDir
  fresh : scripting.boostraped = false → ∀ state, scripting.state = some state →
    state.loaded = none ∧ state.config = none
  loaded : ∀ state, scripting.state = some state → state.config.isSome → scripting.IsSetUp

/-- The variables after `bootstrap` has chosen a path. -/
def prepared (host : LuaHost) (scripting : Scripting) : Scripting :=
  if !scripting.hasCustomPath then
    (scripting.setPath (bootstrapDirectory host)).2
  else
    scripting

theorem setPath_of_state {scripting : Scripting} {state : LuaState}
    (current : scripting.state = some state) {path : String} (nonempty : path ≠ "") :
    scripting.setPath path =
      (.ok (),
        { scripting with
          searchDir := path
          path := withSearchQualifiers path
          state := some { state with packagePath := withSearchQualifiers path } }) := by
  rw [← setPathOn_false, ← withSearchQualifiersOn_false]
  exact setPathOn_of_state false current nonempty

theorem bootstrap_of_no_state (host : LuaHost) {scripting : Scripting}
    (fresh : scripting.boostraped = false) (absent : scripting.state = none) :
    scripting.bootstrap host = (.error "Lua state was not initialized", scripting) := by
  cases custom : scripting.hasCustomPath with
  | true => simp [bootstrap, fresh, custom, luaState, absent]
  | false =>
      by_cases nowhere : bootstrapDirectory host = ""
      · simp [bootstrap, fresh, custom, setPath, nowhere, luaState, absent]
      · simp [bootstrap, fresh, custom, setPath, nowhere, luaState, absent]

theorem prepared_of_state (host : LuaHost) {scripting : Scripting} {state : LuaState}
    (current : scripting.state = some state) :
    (scripting.prepared host).boostraped = scripting.boostraped ∧
      (scripting.prepared host).state =
        some { state with packagePath := scripting.bootstrapPath host state } := by
  cases custom : scripting.hasCustomPath with
  | true => simp [prepared, bootstrapPath, custom, current]
  | false =>
      by_cases nowhere : bootstrapDirectory host = ""
      · simp [prepared, bootstrapPath, custom, nowhere, setPath, current]
      · simp [prepared, bootstrapPath, custom, nowhere, setPath_of_state current nowhere]

theorem bootstrap_of_state (host : LuaHost) {scripting : Scripting} {state : LuaState}
    (fresh : scripting.boostraped = false) (current : scripting.state = some state)
    (unloaded : state.loaded = none) :
    scripting.bootstrap host =
      match PackagePath.search host.fileExists (scripting.bootstrapPath host state) "config" with
      | none => (.ok false, scripting.prepared host)
      | some file =>
          (.ok true,
            { scripting.prepared host with
              boostraped := true
              state := some
                { state with
                  packagePath := scripting.bootstrapPath host state
                  loaded := some file
                  config := some file } }) := by
  obtain ⟨-, preparedState⟩ := prepared_of_state host current
  have chosen : (if !scripting.hasCustomPath then scripting.setPath (bootstrapDirectory host)
      else (.ok (), scripting)) = (.ok (), scripting.prepared host) := by
    cases custom : scripting.hasCustomPath with
    | true => simp [prepared, custom]
    | false =>
        by_cases nowhere : bootstrapDirectory host = ""
        · simp [prepared, custom, nowhere, setPath]
        · simp [prepared, custom, setPath_of_state current nowhere]
  simp only [bootstrap, fresh, Bool.false_eq_true, ↓reduceIte, chosen, luaState, preparedState,
    requireConfig, unloaded]
  cases PackagePath.search host.fileExists (scripting.bootstrapPath host state) "config" <;> rfl

theorem withSearchQualifiers_ne_empty (directory : String) : withSearchQualifiers directory ≠ "" := by
  intro empty
  simp only [withSearchQualifiers, String.append_eq_empty_iff] at empty
  exact absurd empty.2 (by decide)

theorem Consistent.hasCustomPath_iff {scripting : Scripting} (consistent : scripting.Consistent) :
    scripting.hasCustomPath = true ↔ scripting.searchDir ≠ "" := by
  rcases consistent.path with ⟨path, searchDir⟩ | ⟨searchDir, path⟩
  · simp [hasCustomPath, path, searchDir]
  · simp [hasCustomPath, path, searchDir, withSearchQualifiers_ne_empty]

/-- The path with which `bootstrap` goes on was made from the search directory
exactly when it is the saved one. -/
theorem Consistent.pathIsSaved_iff {scripting : Scripting} (consistent : scripting.Consistent)
    (host : LuaHost) {state : LuaState} (current : scripting.state = some state) :
    scripting.PathIsSaved host state ↔
      (scripting.prepared host).searchDir ≠ "" ∧
        scripting.bootstrapPath host state =
          withSearchQualifiers (scripting.prepared host).searchDir := by
  have saved := consistent.hasCustomPath_iff
  cases custom : scripting.hasCustomPath with
  | true =>
      have searchDir := saved.mp custom
      have path := (consistent.path.resolve_left fun unset => searchDir unset.2).2
      simp [PathIsSaved, prepared, bootstrapPath, custom, searchDir, path]
  | false =>
      have searchDir : scripting.searchDir = "" := by
        by_contra set
        simp [saved.mpr set] at custom
      by_cases nowhere : bootstrapDirectory host = ""
      · simp [PathIsSaved, prepared, custom, nowhere, setPath, searchDir]
      · simp [PathIsSaved, prepared, bootstrapPath, custom, nowhere,
          setPath_of_state current nowhere]

/-- After a path was set, what `bootstrap` returns is decided by this path. -/
theorem bootstrap_setPath (host : LuaHost) {scripting : Scripting} {state : LuaState}
    (fresh : scripting.boostraped = false) (current : scripting.state = some state)
    (unloaded : state.loaded = none) {directory : String} (nonempty : directory ≠ "") :
    ((scripting.setPath directory).2.bootstrap host).1 = .ok true ↔
      FindsConfig host (withSearchQualifiers directory) := by
  let searched := { state with packagePath := withSearchQualifiers directory }
  let after : Scripting :=
    { scripting with
      searchDir := directory
      path := withSearchQualifiers directory
      state := some searched }
  have set : (scripting.setPath directory).2 = after := by
    rw [setPath_of_state current nonempty]
  have path : bootstrapPath host after searched = withSearchQualifiers directory := by
    simp [bootstrapPath, hasCustomPath, after, searched, withSearchQualifiers_ne_empty]
  have returned := @bootstrap_of_state host after searched fresh rfl unloaded
  rw [path] at returned
  rw [set, returned, FindsConfig]
  cases PackagePath.search host.fileExists (withSearchQualifiers directory) "config" with
  | none => simp
  | some file => simp

section TellsTruth

variable {scripting : Scripting} (consistent : scripting.Consistent) (host : LuaHost)

include consistent

theorem Consistent.tellsTruth_iff_of_boostraped (boostraped : scripting.boostraped = true) :
    scripting.TellsTruth host ↔
      ∃ state, scripting.state = some state ∧ state.config.isSome := by
  have returned : scripting.bootstrap host = (.ok true, scripting) := by
    simp [bootstrap, boostraped]
  constructor
  · intro truth
    have setUp := truth.of_true (by rw [returned])
    rw [returned] at setUp
    obtain ⟨state, file, current, -, -, -, config⟩ := setUp
    exact ⟨state, current, by simp [config]⟩
  · rintro ⟨state, current, config⟩
    refine ⟨fun _ => ?_, fun reported => ?_⟩
    · rw [returned]
      exact consistent.loaded state current config
    · simp [returned] at reported

variable (fresh : scripting.boostraped = false) {state : LuaState}
  (current : scripting.state = some state)

include fresh current

/-- A configuration is found, and the call returns `true`. -/
theorem Consistent.tellsTruth_iff_of_found
    (finds : FindsConfig host (scripting.bootstrapPath host state)) :
    scripting.TellsTruth host ↔ scripting.PathIsSaved host state := by
  obtain ⟨unloaded, -⟩ := consistent.fresh fresh state current
  have returned := bootstrap_of_state host fresh current unloaded
  obtain ⟨file, found⟩ := Option.isSome_iff_exists.mp finds
  rw [found] at returned
  rw [consistent.pathIsSaved_iff host current]
  constructor
  · intro truth
    have setUp := truth.of_true (by rw [returned])
    rw [returned] at setUp
    obtain ⟨_, _, same, searchDir, path, -⟩ := setUp
    rw [← Option.some.inj same] at path
    exact ⟨searchDir, path⟩
  · rintro ⟨searchDir, path⟩
    refine ⟨fun _ => ?_, fun reported => by simp [returned] at reported⟩
    rw [returned]
    exact ⟨_, file, rfl, searchDir, path, rfl, rfl⟩

/-- None is found, and the call returns `false`. -/
theorem Consistent.tellsTruth_iff_of_missing
    (missing : ¬ FindsConfig host (scripting.bootstrapPath host state)) :
    scripting.TellsTruth host ↔
      ∀ directory, host.holdsConfig directory = true → directory ≠ "" →
        ¬ PackagePath.IsPlain directory → FindsConfig host (withSearchQualifiers directory) := by
  obtain ⟨unloaded, -⟩ := consistent.fresh fresh state current
  have returned := bootstrap_of_state host fresh current unloaded
  have absent : PackagePath.search host.fileExists (scripting.bootstrapPath host state) "config" =
      none := by simpa [FindsConfig] using missing
  rw [absent] at returned
  obtain ⟨preparedFresh, preparedState⟩ := prepared_of_state host current
  have next {directory : String} (nonempty : directory ≠ "") :=
    bootstrap_setPath host (preparedFresh.trans fresh) preparedState unloaded nonempty
  constructor
  · intro truth directory holds nonempty _
    have succeeds := truth.of_false (by rw [returned]) directory nonempty holds
    rw [returned] at succeeds
    exact (next nonempty).mp succeeds
  · intro named
    refine ⟨fun reported => by simp [returned] at reported, ?_⟩
    intro _ directory nonempty holds
    rw [returned]
    apply (next nonempty).mpr
    by_cases plain : PackagePath.IsPlain directory
    · exact findsConfig_of_plain plain nonempty holds
    · exact named directory holds nonempty plain

end TellsTruth

theorem Consistent.tellsTruth_iff {scripting : Scripting} (consistent : scripting.Consistent)
    (host : LuaHost) : scripting.TellsTruth host ↔ scripting.DescribesState host := by
  cases fresh : scripting.boostraped with
  | true =>
      rw [consistent.tellsTruth_iff_of_boostraped host fresh]
      simp only [DescribesState, fresh, ↓reduceIte]
  | false =>
      simp only [DescribesState, fresh, Bool.false_eq_true, ↓reduceIte]
      cases current : scripting.state with
      | none =>
          have thrown := bootstrap_of_no_state host fresh current
          refine iff_of_true ⟨fun reported => ?_, fun reported => ?_⟩ (by simp)
          · simp [thrown] at reported
          · simp [thrown] at reported
      | some state =>
          have only {property : LuaState → Prop} :
              (∀ other, some state = some other → property other) ↔ property state := by
            simp
          rw [only]
          by_cases finds : FindsConfig host (scripting.bootstrapPath host state)
          · rw [consistent.tellsTruth_iff_of_found host fresh current finds]
            simp [finds]
          · rw [consistent.tellsTruth_iff_of_missing host fresh current finds]
            simp [finds]

/-- What a program does with the interpreter. -/
inductive Action
  | construct
  | destruct
  | setPath (path : String)
  | bootstrap
  deriving DecidableEq, Repr

def perform (host : LuaHost) (scripting : Scripting) : Action → Scripting
  | .construct => (scripting.construct host).2
  | .destruct => scripting.destroy
  | .setPath path => (scripting.setPath path).2
  | .bootstrap => (scripting.bootstrap host).2

theorem consistent_of_state {scripting : Scripting} {state : LuaState}
    (current : scripting.state = some state)
    (path : scripting.path = "" ∧ scripting.searchDir = "" ∨
      scripting.searchDir ≠ "" ∧ scripting.path = withSearchQualifiers scripting.searchDir)
    (fresh : scripting.boostraped = false → state.loaded = none ∧ state.config = none)
    (loaded : state.config.isSome → scripting.IsSetUp) : scripting.Consistent := by
  refine ⟨path, fun isFresh other isOther => ?_, fun other isOther config => ?_⟩
  · rw [← Option.some.inj (current.symm.trans isOther)]
    exact fresh isFresh
  · rw [← Option.some.inj (current.symm.trans isOther)] at config
    exact loaded config

theorem consistent_start : start.Consistent :=
  ⟨.inl ⟨rfl, rfl⟩, by simp [start], by simp [start]⟩

theorem Consistent.destroy {scripting : Scripting} (consistent : scripting.Consistent) :
    scripting.destroy.Consistent :=
  ⟨consistent.path, by simp [Scripting.destroy], by simp [Scripting.destroy]⟩

theorem Consistent.construct {scripting : Scripting} (consistent : scripting.Consistent)
    (host : LuaHost) : (scripting.construct host).2.Consistent := by
  cases current : scripting.state with
  | some state =>
      have thrown : (scripting.construct host).2 = scripting.destroy := by
        simp [Scripting.construct, current]
      rw [thrown]
      exact consistent.destroy
  | none =>
      simp only [Scripting.construct, init, current]
      exact consistent_of_state rfl consistent.path (fun _ => ⟨rfl, rfl⟩) (by simp)

theorem Consistent.setPath {scripting : Scripting} (consistent : scripting.Consistent)
    (path : String) : (scripting.setPath path).2.Consistent := by
  by_cases empty : path = ""
  · simpa [Scripting.setPath, empty] using consistent
  cases current : scripting.state with
  | none =>
      have kept : (scripting.setPath path).2 = scripting := by
        simp [Scripting.setPath, empty, luaState, current]
      rw [kept]
      exact consistent
  | some state =>
      rw [setPath_of_state current empty]
      refine consistent_of_state rfl (.inr ⟨empty, rfl⟩)
        (fun fresh => consistent.fresh fresh state current) ?_
      intro config
      obtain ⟨other, file, isOther, -, -, loaded, isConfig⟩ :=
        consistent.loaded state current config
      obtain rfl : state = other := Option.some.inj (current.symm.trans isOther)
      exact ⟨_, file, rfl, empty, rfl, loaded, isConfig⟩

theorem Consistent.prepared {scripting : Scripting} (consistent : scripting.Consistent)
    (host : LuaHost) : (scripting.prepared host).Consistent := by
  unfold Scripting.prepared
  split
  · exact consistent.setPath _
  · exact consistent

theorem Consistent.bootstrap {scripting : Scripting} (consistent : scripting.Consistent)
    {host : LuaHost} (truth : scripting.TellsTruth host) :
    (scripting.bootstrap host).2.Consistent := by
  cases fresh : scripting.boostraped with
  | true =>
      have kept : (scripting.bootstrap host).2 = scripting := by
        simp [Scripting.bootstrap, fresh]
      rw [kept]
      exact consistent
  | false =>
      cases current : scripting.state with
      | none =>
          rw [bootstrap_of_no_state host fresh current]
          exact consistent
      | some state =>
          obtain ⟨unloaded, -⟩ := consistent.fresh fresh state current
          have returned := bootstrap_of_state host fresh current unloaded
          have setUp := truth.of_true
          rw [returned] at setUp ⊢
          cases found : PackagePath.search host.fileExists (scripting.bootstrapPath host state)
              "config" with
          | none => exact consistent.prepared host
          | some file =>
              rw [found] at setUp
              exact consistent_of_state rfl (consistent.prepared host).path (by simp)
                (fun _ => setUp rfl)

theorem Consistent.perform {scripting : Scripting} (consistent : scripting.Consistent)
    (host : LuaHost) {action : Action}
    (truth : action = .bootstrap → scripting.TellsTruth host) :
    (scripting.perform host action).Consistent := by
  cases action with
  | construct => exact consistent.construct host
  | destruct => exact consistent.destroy
  | setPath path => exact consistent.setPath path
  | bootstrap => exact consistent.bootstrap (truth rfl)

/-- **Bootstrapping.** In every run, every `bootstrap` call tells the truth if
and only if every such call finds variables that describe the live state. -/
theorem bootstrap_tells_truth_iff (host : LuaHost) (actions : List Action) :
    (∀ taken ∈ steps (perform host) start actions,
        taken.2 = .bootstrap → taken.1.TellsTruth host) ↔
      ∀ taken ∈ steps (perform host) start actions,
        taken.2 = .bootstrap → taken.1.DescribesState host := by
  refine forall_steps_iff (perform host) Consistent (fun _ _ => True)
    (fun scripting action => action = .bootstrap → scripting.TellsTruth host)
    (fun scripting action => action = .bootstrap → scripting.DescribesState host) ?_ ?_
    consistent_start (fun _ _ => trivial)
  · intro scripting action consistent _
    exact imp_congr_right fun _ => consistent.tellsTruth_iff host
  · intro scripting action consistent _ truth
    exact consistent.perform host truth

/-- The first `Lifecycle` of a process is alive, and all that was done since is
setting paths and bootstrapping: until this has succeeded, the live state has
the saved path, or its own one if none is saved. -/
structure InFirstLifecycle (host : LuaHost) (scripting : Scripting) : Prop where
  consistent : scripting.Consistent
  live : ∃ state, scripting.state = some state ∧
    if scripting.boostraped then
      state.config.isSome = true
    else
      state.packagePath = if scripting.hasCustomPath then scripting.path else host.packagePath

namespace InFirstLifecycle

variable {host : LuaHost} {scripting : Scripting}

/-- The variables describe the state if the interpreter finds no configuration by
itself, and no directory with one has a name that cannot stand in a path. -/
theorem describesState (first : scripting.InFirstLifecycle host)
    (alone : ¬ FindsConfig host host.packagePath)
    (named : ∀ directory, host.holdsConfig directory = true → PackagePath.IsPlain directory) :
    scripting.DescribesState host := by
  obtain ⟨-, state, current, live⟩ := first
  cases fresh : scripting.boostraped with
  | true =>
      rw [fresh, if_pos rfl] at live
      rw [DescribesState, fresh, if_pos rfl]
      exact ⟨state, current, live⟩
  | false =>
      rw [fresh, if_neg Bool.false_ne_true] at live
      rw [DescribesState, fresh, if_neg Bool.false_ne_true]
      intro other isOther
      obtain rfl : state = other := Option.some.inj (current.symm.trans isOther)
      refine ⟨fun finds => ?_, fun _ directory holds _ special => ?_⟩
      · rw [PathIsSaved]
        split
        next custom => rwa [custom, if_pos rfl] at live
        next custom =>
          intro nowhere
          rw [if_neg custom] at live
          rw [bootstrapPath, if_pos (.inr nowhere), live] at finds
          exact alone finds
      · exact absurd (named directory holds) special

theorem setPath (first : scripting.InFirstLifecycle host) (path : String) :
    (scripting.setPath path).2.InFirstLifecycle host := by
  refine ⟨first.consistent.setPath path, ?_⟩
  obtain ⟨state, current, live⟩ := first.live
  by_cases empty : path = ""
  · rw [show (scripting.setPath path).2 = scripting by simp [Scripting.setPath, empty]]
    exact ⟨state, current, live⟩
  · rw [setPath_of_state current empty]
    refine ⟨_, rfl, ?_⟩
    cases fresh : scripting.boostraped with
    | true => simpa [fresh] using live
    | false => simp [hasCustomPath, withSearchQualifiers_ne_empty]

theorem bootstrap (first : scripting.InFirstLifecycle host)
    (truth : scripting.TellsTruth host) : (scripting.bootstrap host).2.InFirstLifecycle host := by
  refine ⟨first.consistent.bootstrap truth, ?_⟩
  obtain ⟨state, current, live⟩ := first.live
  cases fresh : scripting.boostraped with
  | true =>
      rw [show (scripting.bootstrap host).2 = scripting by simp [Scripting.bootstrap, fresh]]
      exact ⟨state, current, live⟩
  | false =>
      obtain ⟨unloaded, -⟩ := first.consistent.fresh fresh state current
      rw [bootstrap_of_state host fresh current unloaded]
      cases PackagePath.search host.fileExists (scripting.bootstrapPath host state) "config" with
      | some file => exact ⟨_, rfl, rfl⟩
      | none =>
          dsimp only
          rw [prepared]
          split
          · exact (first.setPath (bootstrapDirectory host)).live
          · exact first.live

theorem tellsTruth (first : scripting.InFirstLifecycle host)
    (alone : ¬ FindsConfig host host.packagePath)
    (named : ∀ directory, host.holdsConfig directory = true → PackagePath.IsPlain directory) :
    scripting.TellsTruth host :=
  (first.consistent.tellsTruth_iff host).mpr (first.describesState alone named)

end InFirstLifecycle

theorem inFirstLifecycle_construct (host : LuaHost) :
    (start.construct host).2.InFirstLifecycle host :=
  ⟨consistent_start.construct host, _, rfl, rfl⟩

/-- In a process with one `Lifecycle` every `bootstrap` call tells the truth,
whatever paths are set before and after it, if the interpreter finds no
configuration by itself and every directory that holds one has a plain name. -/
theorem bootstrap_tells_truth_of_one_lifecycle {host : LuaHost}
    (alone : ¬ FindsConfig host host.packagePath)
    (named : ∀ directory, host.holdsConfig directory = true → PackagePath.IsPlain directory)
    {calls : List Action} (inside : ∀ call ∈ calls, call ≠ .construct ∧ call ≠ .destruct) :
    ∀ taken ∈ steps (perform host) start (.construct :: calls),
      taken.2 = .bootstrap → taken.1.TellsTruth host := by
  rw [steps_cons, List.forall_mem_cons]
  refine ⟨fun isBootstrap => Action.noConfusion isBootstrap, fun taken member _ => ?_⟩
  refine InFirstLifecycle.tellsTruth ?_ alone named
  refine (invariant_of_steps (perform host) (InFirstLifecycle host)
    (fun _ call => call ≠ .construct ∧ call ≠ .destruct) ?_ (inFirstLifecycle_construct host)
    ?_).2 taken member
  · intro scripting call first inside
    cases call with
    | construct => exact absurd rfl inside.1
    | destruct => exact absurd rfl inside.2
    | setPath path => exact first.setPath path
    | bootstrap => exact first.bootstrap (first.tellsTruth alone named)
  · intro before reached
    exact inside before.2 (mem_of_mem_steps reached)

/-- The host of the bench is of this kind. -/
example {calls : List Action} (inside : ∀ call ∈ calls, call ≠ .construct ∧ call ≠ .destruct) :
    ∀ taken ∈ steps (perform .bench) start (.construct :: calls),
      taken.2 = .bootstrap → taken.1.TellsTruth .bench := by
  refine bootstrap_tells_truth_of_one_lifecycle (by unfold FindsConfig; decide) ?_ inside
  intro directory holds
  simp only [LuaHost.holdsConfig, LuaHost.bench, Bool.or_eq_true, beq_iff_eq] at holds
  rcases holds with deploy | other
  · obtain rfl : directory = "/deploy" := (String.append_left_inj _).mp deploy
    exact ⟨by decide, by decide⟩
  · obtain rfl : directory = "/other" := (String.append_left_inj _).mp other
    exact ⟨by decide, by decide⟩

/-- A second `Lifecycle` starts with a new state, and `bootstrap` reports that
it was bootstrapped. -/
theorem second_lifecycle_is_not_bootstrapped :
    ¬ ∀ (host : LuaHost) (actions : List Action), ∀ taken ∈ steps (perform host) start actions,
      taken.2 = .bootstrap → taken.1.TellsTruth host := by
  intro truth
  let first := [Action.construct, .bootstrap, .destruct, .construct]
  let second := first.foldl (perform .bench) start
  have told := truth .bench (first ++ [.bootstrap]) (second, .bootstrap)
    (by simp [first, second]) rfl
  obtain ⟨state, file, current, -, -, loaded, -⟩ := told.of_true (by decide)
  have unloaded : (second.bootstrap .bench).2.state = some ⟨1, "./?.lua", none, none⟩ := by decide
  obtain rfl := Option.some.inj (unloaded.symm.trans current)
  cases loaded

end Scripting

end RobotFirmware
