import BindingGen.Files.Path
import BindingGen.Proofs.Text.Split

/-!
# Names of a joined path

A relative path that is joined onto a directory leads through the names of the directory first
and then through its own.  A single component adds exactly one name, which goes down.
-/

namespace BindingGen
namespace Path

/-- A name that leads from a directory to something directly inside it. -/
structure IsComponent (name : String) : Prop where
  filled : name ≠ ""
  noSlash : '/' ∉ name.toList
  notSame : name ≠ "."
  notUp : name ≠ ".."

private theorem names_ofList (cs : List Char) :
    names (String.ofList cs) =
      ((Text.splitWhere (· == '/') cs).filter fun segment => !segment.isEmpty).map
        String.ofList := by
  simp [names, segments]

private theorem names_append_slash (first second : List Char) :
    names (String.ofList (first ++ '/' :: second)) =
      names (String.ofList first) ++ names (String.ofList second) := by
  simp only [names_ofList]
  rw [Text.splitWhere_append_separator (by simp), List.filter_append, List.map_append]

@[simp]
theorem names_empty : names "" = [] := by
  simp [names, segments, Text.splitWhere]

/-- A slash between two texts makes the names of the second follow those of the first. -/
@[simp]
theorem names_append_slash_append (first second : String) :
    names (first ++ "/" ++ second) = names first ++ names second := by
  have flat : first ++ "/" ++ second = String.ofList (first.toList ++ '/' :: second.toList) := by
    apply String.toList_inj.mp
    simp
  rw [flat, names_append_slash, String.ofList_toList, String.ofList_toList]

private theorem names_append_of_endsInSlash {directory : String}
    (ends : directory.toList.getLast? = some '/') (path : String) :
    names (directory ++ path) = names directory ++ names path := by
  obtain ⟨before, shape⟩ := List.getLast?_eq_some_iff.mp ends
  have cut : directory = String.ofList before ++ "/" ++ "" := by
    apply String.toList_inj.mp
    simp [shape]
  have joined : directory ++ path = String.ofList before ++ "/" ++ path := by
    rw [cut, String.append_empty]
  rw [joined, names_append_slash_append, cut, names_append_slash_append]
  simp

@[simp]
theorem names_join {path : String} (relative : isAbsolute path = false) (directory : String) :
    names (join directory path) = names directory ++ names path := by
  rw [join, relative, Bool.false_or]
  split
  next isEmpty =>
    rw [String.isEmpty_iff.mp isEmpty, names_empty, List.nil_append]
  next =>
    split
    next ends => exact names_append_of_endsInSlash (by simpa using ends) path
    next => exact names_append_slash_append directory path

@[simp]
theorem join_of_isAbsolute {path : String} (absolute : isAbsolute path = true)
    (directory : String) : join directory path = path := by
  rw [join, absolute, Bool.true_or, if_pos rfl]

@[simp]
theorem isAbsolute_join {path : String} (relative : isAbsolute path = false)
    (directory : String) : isAbsolute (join directory path) = isAbsolute directory := by
  rw [join, relative, Bool.false_or]
  split
  next isEmpty =>
    rw [String.isEmpty_iff.mp isEmpty, relative]
    rfl
  next filled =>
    have someChar : directory.toList ≠ [] := by
      simpa [String.isEmpty_iff, String.toList_eq_nil_iff] using filled
    obtain ⟨c, cs, shape⟩ := List.exists_cons_of_ne_nil someChar
    split <;> simp [isAbsolute, shape]

/-- A directory and the path of something below it determine what is joined. -/
theorem join_inj {first second : String} (relative : isAbsolute first = false)
    (alsoRelative : isAbsolute second = false) {directory : String} :
    join directory first = join directory second ↔ first = second := by
  simp only [join, relative, alsoRelative, Bool.false_or]
  split
  · rfl
  · split <;> simp [← String.toList_inj]

theorem isAbsolute_eq_false_of_noSlash {name : String} (noSlash : '/' ∉ name.toList) :
    isAbsolute name = false := by
  cases shape : name.toList with
  | nil => simp [isAbsolute, shape]
  | cons c cs =>
      have apart : c ≠ '/' := by
        intro equal
        exact noSlash (by simp [shape, equal])
      simp [isAbsolute, shape, apart]

/-- A path that is a directory joined with a single component. -/
def DirectlyBelow (directory path : String) : Prop :=
  ∃ component, IsComponent component ∧ path = join directory component

theorem directlyBelow_join_iff {path : String} (relative : isAbsolute path = false)
    {directory : String} : DirectlyBelow directory (join directory path) ↔ IsComponent path := by
  constructor
  · rintro ⟨component, isComponent, same⟩
    have alsoRelative := isAbsolute_eq_false_of_noSlash isComponent.noSlash
    rwa [(join_inj relative alsoRelative).mp same]
  · intro isComponent
    exact ⟨path, isComponent, rfl⟩

theorem names_eq_singleton {name : String} (filled : name ≠ "") (noSlash : '/' ∉ name.toList) :
    names name = [name] := by
  have whole : Text.splitWhere (· == '/') name.toList = [name.toList] := by
    apply Text.splitWhere_eq_singleton
    intro c member
    have apart : c ≠ '/' := fun equal => noSlash (equal ▸ member)
    simpa using apart
  have kept : name.toList.isEmpty = false := by
    simpa [String.toList_eq_nil_iff] using filled
  simp [names, segments, whole, kept]

end Path
end BindingGen
