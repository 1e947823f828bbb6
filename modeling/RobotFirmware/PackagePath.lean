import Mathlib.Data.List.Basic
import Mathlib.Data.String.Basic

/-!
# The search path of Lua modules

`package.path` is a list of templates separated by semicolons.  `require`
replaces every question mark of a template by the name of the module, with
its dots turned into directory separators, and takes the first file that
exists.
-/

namespace RobotFirmware.PackagePath

/-- The templates of a path.  Empty ones are skipped. -/
def templates (path : String) : List String :=
  ((path.toList.splitOn ';').filter fun template => !template.isEmpty).map String.ofList

/-- The name of a module as part of a file name. -/
def fileName (name : String) : String :=
  String.ofList (name.toList.map fun char => if char = '.' then '/' else char)

/-- A template with a name in place of its question marks. -/
def substitute (name template : String) : String :=
  String.ofList (template.toList.flatMap fun char => if char = '?' then name.toList else [char])

/-- The files that `require` tries, in this order. -/
def candidates (path name : String) : List String :=
  (templates path).map (substitute (fileName name))

/-- The file that `require` loads. -/
def search (fileExists : String → Bool) (path name : String) : Option String :=
  (candidates path name).find? fileExists

section Separator

variable (separator : Char)

/-- The name of a module as part of a file name, on a platform with this
directory separator. -/
def fileNameOn (name : String) : String :=
  String.ofList (name.toList.map fun char => if char = '.' then separator else char)

/-- The files that `require` tries on this platform. -/
def candidatesOn (path name : String) : List String :=
  (templates path).map (substitute (fileNameOn separator name))

/-- The file lies in the directory or below it. -/
def LiesUnder (directory file : String) : Prop :=
  ∃ rest, file = directory ++ separator.toString ++ rest

end Separator

theorem candidatesOn_slash : candidatesOn '/' = candidates :=
  rfl

theorem search_isSome_of_mem {fileExists : String → Bool} {path name file : String}
    (candidate : file ∈ candidates path name) (present : fileExists file = true) :
    (search fileExists path name).isSome := by
  rw [search, List.find?_isSome]
  exact ⟨file, candidate, present⟩

/-- A name without the characters that have a meaning in a path. -/
def IsPlain (directory : String) : Prop :=
  ';' ∉ directory.toList ∧ '?' ∉ directory.toList

theorem templates_append {first : String} (nonempty : first ≠ "")
    (noSeparator : ';' ∉ first.toList) (others : String) :
    templates (first ++ ";" ++ others) = first :: templates others := by
  have chars : (first ++ ";" ++ others).toList = first.toList ++ ';' :: others.toList := by
    simp
  have charsNonempty : first.toList ≠ [] := by simpa using nonempty
  rw [templates, chars, List.splitOn_append_cons_self_of_not_mem noSeparator,
    List.filter_cons_of_pos (by simpa using charsNonempty), List.map_cons, String.ofList_toList]
  rfl

theorem templates_single {template : String} (nonempty : template ≠ "")
    (noSeparator : ';' ∉ template.toList) : templates template = [template] := by
  have charsNonempty : template.toList ≠ [] := by simpa using nonempty
  rw [templates, List.splitOn_eq_singleton noSeparator,
    List.filter_cons_of_pos (by simpa using charsNonempty), List.filter_nil, List.map_singleton,
    String.ofList_toList]

theorem templates_pair {first second : String} (firstNonempty : first ≠ "")
    (firstSingle : ';' ∉ first.toList) (secondNonempty : second ≠ "")
    (secondSingle : ';' ∉ second.toList) :
    templates (first ++ ";" ++ second) = [first, second] := by
  rw [templates_append firstNonempty firstSingle, templates_single secondNonempty secondSingle]

theorem substitute_append (name first second : String) :
    substitute name (first ++ second) = substitute name first ++ substitute name second := by
  simp [substitute, String.ofList_append]

theorem substitute_of_no_mark {template : String} (noMark : '?' ∉ template.toList)
    (name : String) : substitute name template = template := by
  have same : template.toList.flatMap (fun char => if char = '?' then name.toList else [char]) =
      template.toList.flatMap fun char => [char] := by
    apply List.flatMap_congr
    intro char member
    have : char ≠ '?' := by
      rintro rfl
      exact noMark member
    rw [if_neg this]
  rw [substitute, same]
  simp

theorem substitute_mark (name : String) : substitute name "?" = name := by
  simp [substitute]

end RobotFirmware.PackagePath
