import RobotFirmware.Bootstrap

/-!
# Starting the program

The process creates its `Lifecycle` first, and `main` starts the robot only if
`bootstrap` reports that the configuration is there.  The directories of WPILib
are tried in a fixed order, and what the interpreter finds by itself comes last.
-/

namespace RobotFirmware

/-- The directories that `bootstrap` tries, in this order. -/
def LuaHost.searchedDirectories (host : LuaHost) : List String :=
  [host.deployDirectory, host.operatingDirectory ++ "/robot", host.launchDirectory ++ "/robot"]

namespace Scripting

/-- The static `Lifecycle`, and `main` up to `frc::StartRobot`, with the text of
the exception. -/
def main (host : LuaHost) : Except String Scripting :=
  match start.construct host with
  | (.error message, _) => .error message
  | (.ok (), scripting) =>
      match scripting.bootstrap host with
      | (.error message, _) => .error message
      | (.ok false, _) => .error "lua engine could not be bootstrapped"
      | (.ok true, scripting) => .ok scripting

/-- The directory is the first of those tried that has a `config.lua`. -/
theorem bootstrapDirectory_eq (host : LuaHost) :
    bootstrapDirectory host = (host.searchedDirectories.find? host.holdsConfig).getD "" := by
  cases deploy : host.holdsConfig host.deployDirectory with
  | true => simp [bootstrapDirectory, LuaHost.searchedDirectories, deploy]
  | false =>
      cases operating : host.holdsConfig (host.operatingDirectory ++ "/robot") with
      | true => simp [bootstrapDirectory, LuaHost.searchedDirectories, deploy, operating]
      | false =>
          cases launch : host.holdsConfig (host.launchDirectory ++ "/robot") <;>
            simp [bootstrapDirectory, LuaHost.searchedDirectories, deploy, operating, launch]

/-- The variables when `main` begins. -/
def launched (host : LuaHost) : Scripting :=
  start.init host

/-- `main` succeeds if `require` finds the configuration on the path that
`bootstrap` has chosen. -/
theorem main_eq (host : LuaHost) :
    main host =
      match PackagePath.search host.fileExists
          ((launched host).bootstrapPath host ⟨0, host.packagePath, none, none⟩) "config" with
      | none => .error "lua engine could not be bootstrapped"
      | some file => .ok
          { (launched host).prepared host with
            boostraped := true
            state := some
              { id := 0
                packagePath :=
                  (launched host).bootstrapPath host ⟨0, host.packagePath, none, none⟩
                loaded := some file
                config := some file } } := by
  have fresh : (launched host).boostraped = false := rfl
  have current : (launched host).state = some ⟨0, host.packagePath, none, none⟩ := rfl
  have bootstrapped := bootstrap_of_state host fresh current rfl
  have constructed : start.construct host = (.ok (), launched host) := rfl
  rw [main, constructed]
  dsimp only
  rw [bootstrapped]
  cases PackagePath.search host.fileExists
    ((launched host).bootstrapPath host ⟨0, host.packagePath, none, none⟩) "config" <;> rfl

/-- **The start of the program.** The robot is started if and only if one of the
directories has a `config.lua`, or the interpreter finds a module `config` by
itself.  The first such directory then is the search directory, the state is set
up from it, and its `config.lua` is the configuration, whatever other modules of
that name there are. -/
theorem main_starts_iff {host : LuaHost}
    (named : ∀ directory ∈ host.searchedDirectories,
      directory ≠ "" ∧ PackagePath.IsPlain directory) :
    ((∃ scripting, main host = .ok scripting) ↔
        (∃ directory ∈ host.searchedDirectories, host.holdsConfig directory = true) ∨
          FindsConfig host host.packagePath) ∧
      ∀ scripting, main host = .ok scripting →
        ∀ directory ∈ host.searchedDirectories.find? host.holdsConfig,
          scripting.searchDir = directory ∧ scripting.IsSetUp ∧
            ∃ state ∈ scripting.state, state.config = some (directory ++ "/config.lua") := by
  have noPath : (launched host).hasCustomPath = false := rfl
  have path : (launched host).bootstrapPath host ⟨0, host.packagePath, none, none⟩ =
      if bootstrapDirectory host = "" then host.packagePath
      else withSearchQualifiers (bootstrapDirectory host) := by
    simp [bootstrapPath, noPath]
  have chosen := bootstrapDirectory_eq host
  cases found : host.searchedDirectories.find? host.holdsConfig with
  | none =>
      rw [found, Option.getD_none] at chosen
      rw [if_pos chosen] at path
      have nowhere : ¬ ∃ directory ∈ host.searchedDirectories,
          host.holdsConfig directory = true := by simpa using found
      refine ⟨?_, by simp⟩
      rw [main_eq, path, or_iff_right nowhere, FindsConfig]
      cases PackagePath.search host.fileExists host.packagePath "config" <;> simp
  | some directory =>
      rw [found, Option.getD_some] at chosen
      have member := List.mem_of_find?_eq_some found
      have holds : host.holdsConfig directory = true := List.find?_some found
      obtain ⟨nonempty, plain⟩ := named directory member
      rw [chosen, if_neg nonempty] at path
      have searchDir : ((launched host).prepared host).searchDir = directory := by
        have current : (launched host).state = some ⟨0, host.packagePath, none, none⟩ := rfl
        simp [prepared, noPath, chosen, setPath_of_state current nonempty]
      rw [main_eq, path, search_withSearchQualifiers plain nonempty holds]
      refine ⟨⟨fun _ => .inl ⟨directory, member, holds⟩, fun _ => ⟨_, rfl⟩⟩, ?_⟩
      rintro scripting started other ⟨⟩
      rw [← Except.ok.inj started]
      refine ⟨searchDir, ⟨_, _, rfl, ?_, ?_, rfl, rfl⟩, _, rfl, rfl⟩
      · rwa [searchDir]
      · rw [searchDir]

/-- A host with a `config.lua` in the deploy directory. -/
theorem main_starts_iff_bench :
    ((∃ scripting, main .bench = .ok scripting) ↔
        (∃ directory ∈ LuaHost.bench.searchedDirectories,
          LuaHost.bench.holdsConfig directory = true) ∨
          FindsConfig .bench LuaHost.bench.packagePath) ∧
      ∀ scripting, main .bench = .ok scripting →
        ∀ directory ∈ LuaHost.bench.searchedDirectories.find? LuaHost.bench.holdsConfig,
          scripting.searchDir = directory ∧ scripting.IsSetUp ∧
            ∃ state ∈ scripting.state, state.config = some (directory ++ "/config.lua") :=
  main_starts_iff (by
    simp only [PackagePath.IsPlain]
    decide)

end Scripting

end RobotFirmware
