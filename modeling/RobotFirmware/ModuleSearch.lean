import RobotFirmware.Scripting

/-!
# Where modules are searched

`set_path` builds `package.path` with the directory separator of the platform.
The directory stands in front of the first of its two templates only.  The
second starts at the root of the file system, so that `require` never looks for
a package, that is a directory with an `init.lua`, below the search directory.
-/

namespace RobotFirmware

namespace Scripting

section Platform

variable (win32 : Bool)

/-- `detail::separator`, with and without `_WIN32`. -/
def separator : Char :=
  if win32 then '\\' else '/'

/-- `detail::with_search_qualifiers` on either platform. -/
def withSearchQualifiersOn (input : String) : String :=
  input ++ (separator win32).toString ++ "?.lua;" ++
    (separator win32).toString ++ "?" ++ (separator win32).toString ++ "init.lua"

/-- `lua::set_path` on either platform. -/
def setPathOn (path : String) (scripting : Scripting) : Except String Unit × Scripting :=
  if path.isEmpty then
    (.ok (), scripting)
  else
    match scripting.luaState with
    | .error message => (.error message, scripting)
    | .ok state =>
        let searchPath := withSearchQualifiersOn win32 path
        (.ok (),
          { scripting with
            searchDir := path
            path := searchPath
            state := some { state with packagePath := searchPath } })

/-- The files that `require` tries in the live interpreter. -/
def moduleFiles (scripting : Scripting) (name : String) : List String :=
  match scripting.state with
  | none => []
  | some state => PackagePath.candidatesOn (separator win32) state.packagePath name

/-- `directory/name.lua` -/
def moduleFile (directory name : String) : String :=
  directory ++ (separator win32).toString ++ PackagePath.fileNameOn (separator win32) name ++
    ".lua"

/-- `directory/name/init.lua` -/
def packageFile (directory name : String) : String :=
  directory ++ (separator win32).toString ++ PackagePath.fileNameOn (separator win32) name ++
    (separator win32).toString ++ "init.lua"

/-- No file outside the search directory is tried. -/
def StaysInDirectory (scripting : Scripting) (name : String) : Prop :=
  ∀ file ∈ scripting.moduleFiles win32 name,
    PackagePath.LiesUnder (separator win32) scripting.searchDir file

/-- `require` finds a file when the search directory has the package. -/
def FindsPackage (scripting : Scripting) (name : String) : Prop :=
  ∀ fileExists : String → Bool, fileExists (packageFile win32 scripting.searchDir name) = true →
    ((scripting.moduleFiles win32 name).find? fileExists).isSome

/-- What the path should do: `require` tries the module and then the package in
the search directory, and nothing else. -/
structure SearchesDirectory (scripting : Scripting) (name : String) : Prop where
  files : scripting.moduleFiles win32 name =
    [moduleFile win32 scripting.searchDir name, packageFile win32 scripting.searchDir name]
  stays : scripting.StaysInDirectory win32 name
  found : scripting.FindsPackage win32 name

theorem withSearchQualifiersOn_false : withSearchQualifiersOn false = withSearchQualifiers :=
  rfl

theorem setPathOn_false : setPathOn false = setPath :=
  rfl

/-- Without `_WIN32` this is the search that `bootstrap` makes. -/
theorem find_moduleFiles_false {scripting : Scripting} {state : LuaState}
    (current : scripting.state = some state) (fileExists : String → Bool) (name : String) :
    (scripting.moduleFiles false name).find? fileExists =
      PackagePath.search fileExists state.packagePath name := by
  simp only [moduleFiles, current, separator, Bool.false_eq_true, if_false,
    PackagePath.candidatesOn_slash, PackagePath.search]

/-- The separator has no other meaning in a path. -/
theorem separator_ne : separator win32 ≠ ';' ∧ separator win32 ≠ '?' := by
  cases win32 <;> decide

theorem setPathOn_of_state {scripting : Scripting} {state : LuaState}
    (current : scripting.state = some state) {path : String} (nonempty : path ≠ "") :
    scripting.setPathOn win32 path =
      (.ok (),
        { scripting with
          searchDir := path
          path := withSearchQualifiersOn win32 path
          state := some { state with packagePath := withSearchQualifiersOn win32 path } }) := by
  simp [setPathOn, luaState, current, nonempty]

theorem setPathOn_ok {directory : String} (nonempty : directory ≠ "")
    {scripting after : Scripting}
    (returned : scripting.setPathOn win32 directory = (.ok (), after)) :
    after.searchDir = directory ∧
      ∃ state, after.state = some state ∧
        state.packagePath = withSearchQualifiersOn win32 directory := by
  cases current : scripting.state with
  | none => simp [setPathOn, luaState, current, nonempty] at returned
  | some state =>
      rw [setPathOn_of_state win32 current nonempty] at returned
      obtain ⟨-, rfl⟩ := Prod.mk.inj returned
      exact ⟨rfl, _, rfl, rfl⟩

/-- The search path as its two templates. -/
theorem withSearchQualifiersOn_eq (directory : String) :
    withSearchQualifiersOn win32 directory =
      directory ++ ((separator win32).toString ++ "?" ++ ".lua") ++ ";" ++
        ((separator win32).toString ++ "?" ++ (separator win32).toString ++ "init.lua") := by
  have first : "?.lua;" = "?" ++ ".lua" ++ ";" := rfl
  simp only [withSearchQualifiersOn, first, String.append_assoc]

/-- The second template is expanded as though the directory was empty. -/
theorem candidatesOn_withSearchQualifiersOn {directory : String}
    (plain : PackagePath.IsPlain directory) (nonempty : directory ≠ "") (name : String) :
    PackagePath.candidatesOn (separator win32) (withSearchQualifiersOn win32 directory) name =
      [moduleFile win32 directory name, packageFile win32 "" name] := by
  obtain ⟨noSemicolon, noMark⟩ := separator_ne win32
  have pair : PackagePath.templates (withSearchQualifiersOn win32 directory) =
      [directory ++ ((separator win32).toString ++ "?" ++ ".lua"),
        (separator win32).toString ++ "?" ++ (separator win32).toString ++ "init.lua"] := by
    rw [withSearchQualifiersOn_eq]
    apply PackagePath.templates_pair
    · simp [nonempty]
    · simp [plain.1, noSemicolon.symm]
    · simp
    · simp [noSemicolon.symm]
  have separatorPlain : '?' ∉ (separator win32).toString.toList := by simp [noMark.symm]
  have initPlain : '?' ∉ "init.lua".toList := by decide
  have luaPlain : '?' ∉ ".lua".toList := by decide
  rw [PackagePath.candidatesOn, pair]
  simp only [List.map_cons, List.map_nil, PackagePath.substitute_append,
    PackagePath.substitute_mark, PackagePath.substitute_of_no_mark plain.2,
    PackagePath.substitute_of_no_mark separatorPlain,
    PackagePath.substitute_of_no_mark initPlain, PackagePath.substitute_of_no_mark luaPlain,
    moduleFile, packageFile, String.append_assoc, String.empty_append]

theorem moduleFile_ne_packageFile (directory name : String) :
    moduleFile win32 directory name ≠ packageFile win32 directory name := by
  intro same
  have lengths := congrArg String.length same
  have lua : ".lua".length = 4 := rfl
  have init : "init.lua".length = 8 := rfl
  simp only [moduleFile, packageFile, String.length_append, lua, init] at lengths
  omega

theorem packageFile_ne_of_root {directory : String} (nonempty : directory ≠ "") (name : String) :
    packageFile win32 "" name ≠ packageFile win32 directory name := by
  intro same
  have lengths := congrArg String.length same
  simp only [packageFile, String.length_append, String.length_empty] at lengths
  have : directory.length = 0 := by omega
  exact nonempty (String.length_eq_zero_iff.mp this)

theorem moduleFile_liesUnder (directory name : String) :
    PackagePath.LiesUnder (separator win32) directory (moduleFile win32 directory name) :=
  ⟨_, String.append_assoc⟩

end Platform

theorem candidates_withSearchQualifiers {directory : String}
    (plain : PackagePath.IsPlain directory) (nonempty : directory ≠ "") (name : String) :
    PackagePath.candidates (withSearchQualifiers directory) name =
      [moduleFile false directory name, packageFile false "" name] := by
  rw [← withSearchQualifiersOn_false, ← PackagePath.candidatesOn_slash]
  exact candidatesOn_withSearchQualifiersOn false plain nonempty name

section Search

variable {win32 : Bool} {scripting after : Scripting} {directory : String}

theorem moduleFiles_of_setPathOn (plain : PackagePath.IsPlain directory)
    (nonempty : directory ≠ "")
    (returned : scripting.setPathOn win32 directory = (.ok (), after)) (name : String) :
    after.moduleFiles win32 name =
      [moduleFile win32 directory name, packageFile win32 "" name] := by
  obtain ⟨-, state, current, path⟩ := setPathOn_ok win32 nonempty returned
  simp only [moduleFiles, current, path,
    candidatesOn_withSearchQualifiersOn win32 plain nonempty]

/-- A module that is a file of the search directory is found there, whatever
else exists. -/
theorem find_module (plain : PackagePath.IsPlain directory) (nonempty : directory ≠ "")
    (returned : scripting.setPathOn win32 directory = (.ok (), after)) {name : String}
    {fileExists : String → Bool} (present : fileExists (moduleFile win32 directory name) = true) :
    (after.moduleFiles win32 name).find? fileExists =
      some (moduleFile win32 directory name) := by
  rw [moduleFiles_of_setPathOn plain nonempty returned, List.find?_cons_of_pos present]

/-- On every platform, after every successful `set_path`, the package of every
module is searched at the root.  It is never found in the search directory, and
the files tried lie in this directory only if the one at the root happens to. -/
theorem module_search_leaves_directory (plain : PackagePath.IsPlain directory)
    (nonempty : directory ≠ "")
    (returned : scripting.setPathOn win32 directory = (.ok (), after)) (name : String) :
    after.searchDir = directory ∧
      after.moduleFiles win32 name =
        [moduleFile win32 directory name, packageFile win32 "" name] ∧
      ¬ after.SearchesDirectory win32 name ∧
      ¬ after.FindsPackage win32 name ∧
      (after.StaysInDirectory win32 name ↔
        PackagePath.LiesUnder (separator win32) directory (packageFile win32 "" name)) := by
  obtain ⟨searchDir, -⟩ := setPathOn_ok win32 nonempty returned
  have files := moduleFiles_of_setPathOn plain nonempty returned name
  have notFound : ¬ after.FindsPackage win32 name := by
    intro found
    -- Only the package exists.
    have := found (· == packageFile win32 directory name) (by simp [searchDir])
    simp [files, moduleFile_ne_packageFile, packageFile_ne_of_root win32 nonempty] at this
  refine ⟨searchDir, files, fun searches => notFound searches.found, notFound, ?stays⟩
  case stays =>
    rw [StaysInDirectory, files, searchDir, List.forall_mem_cons, List.forall_mem_singleton]
    exact and_iff_right (moduleFile_liesUnder win32 directory name)

theorem module_search_leaves_directory_of_deploy :
    let after := ((start.init .bench).setPathOn false "/deploy").2
    ¬ after.SearchesDirectory false "util" ∧ ¬ after.FindsPackage false "util" := by
  obtain ⟨-, -, notSearched, notFound, -⟩ := module_search_leaves_directory
    (⟨by decide, by decide⟩ : PackagePath.IsPlain "/deploy") (by decide)
    (rfl : (start.init .bench).setPathOn false "/deploy" = (.ok (), _)) "util"
  exact ⟨notSearched, notFound⟩

/-- After `set_path ("/deploy")` the package `util` is searched in `/util`. -/
theorem package_searched_at_root :
    let after := ((start.init .bench).setPathOn false "/deploy").2
    after.moduleFiles false "util" = ["/deploy/util.lua", "/util/init.lua"] ∧
      ¬ after.SearchesDirectory false "util" := by
  have files : ((start.init .bench).setPathOn false "/deploy").2.moduleFiles false "util" =
      ["/deploy/util.lua", "/util/init.lua"] := by
    decide +kernel
  refine ⟨files, fun searches => ?_⟩
  have expected := searches.files
  rw [files] at expected
  exact absurd expected (by decide +kernel)

end Search

end Scripting

end RobotFirmware
