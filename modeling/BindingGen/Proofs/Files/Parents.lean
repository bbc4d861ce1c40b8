import BindingGen.Proofs.Files.Join
import Mathlib.Data.List.Basic

/-!
# Parents of paths

The parent of a path is read off its segments.  A component that is joined onto a directory is
taken off again by going to the parent, and what is left is the directory without the slashes and
dots at its end.  The place of a working directory has no such ending, and neither have the places
around it.
-/

namespace BindingGen
namespace Path

/-- The path without the segments at its end that do not count. -/
def trimmed (path : String) : String :=
  ofReversed (isAbsolute path) (dropSkipped (segments path).reverse)

theorem dropSkipped_cons_of_filled {segment : List Char} (filled : segment ≠ [])
    (notSame : segment ≠ ['.']) (rest : List (List Char)) :
    dropSkipped (segment :: rest) = segment :: rest := by
  cases rest <;> simp [dropSkipped, filled, notSame]

@[simp]
theorem dropSkipped_cons_nil {rest : List (List Char)} (further : rest ≠ []) :
    dropSkipped ([] :: rest) = dropSkipped rest := by
  obtain ⟨segment, others, rfl⟩ := List.exists_cons_of_ne_nil further
  rfl

theorem IsComponent.segments_eq {name : String} (component : IsComponent name) :
    segments name = [name.toList] := by
  refine Text.splitWhere_eq_singleton fun c member => ?_
  have apart : c ≠ '/' := fun equal => component.noSlash (equal ▸ member)
  simpa using apart

theorem IsComponent.toList_ne_nil {name : String} (component : IsComponent name) :
    name.toList ≠ [] := by
  simpa [String.toList_eq_nil_iff] using component.filled

theorem IsComponent.toList_ne_dot {name : String} (component : IsComponent name) :
    name.toList ≠ ['.'] := by
  intro equal
  exact component.notSame (String.toList_inj.mp equal)

/-- A component is the last segment of the path that it is joined to; the segments in front of it
are those of the directory, with or without an empty one at their end. -/
theorem exists_segments_join {name : String} (component : IsComponent name) (directory : String) :
    ∃ rest, segments (join directory name) = rest ++ [name.toList] ∧
      dropSkipped rest.reverse = dropSkipped (segments directory).reverse := by
  have relative := isAbsolute_eq_false_of_noSlash component.noSlash
  have whole := component.segments_eq
  rw [join, relative, Bool.false_or]
  split
  next isEmpty =>
    refine ⟨[], whole, ?_⟩
    rw [String.isEmpty_iff.mp isEmpty]
    rfl
  next =>
    split
    next ends =>
      obtain ⟨before, shape⟩ := List.getLast?_eq_some_iff.mp (by simpa using ends)
      refine ⟨Text.splitWhere (· == '/') before, ?_, ?_⟩
      · have joined : (directory ++ name).toList = before ++ '/' :: name.toList := by simp [shape]
        rw [segments, joined, Text.splitWhere_append_separator rfl, ← whole]
        rfl
      · have cut : segments directory = Text.splitWhere (· == '/') before ++ [[]] := by
          rw [segments, shape, Text.splitWhere_append_separator rfl]
          rfl
        have further := Text.splitWhere_ne_nil (· == '/') before
        rw [cut, List.reverse_concat, dropSkipped_cons_nil (by simpa using further)]
    next =>
      refine ⟨segments directory, ?_, rfl⟩
      have joined : (directory ++ "/" ++ name).toList = directory.toList ++ '/' :: name.toList := by
        simp
      rw [segments, joined, Text.splitWhere_append_separator rfl, ← whole]
      rfl

theorem parent?_join {name : String} (component : IsComponent name) (directory : String) :
    parent? (join directory name) = some (trimmed directory) := by
  obtain ⟨rest, cut, same⟩ := exists_segments_join component directory
  have relative := isAbsolute_eq_false_of_noSlash component.noSlash
  unfold parent?
  rw [cut, List.reverse_concat,
    dropSkipped_cons_of_filled component.toList_ne_nil component.toList_ne_dot,
    isAbsolute_join relative]
  exact congrArg (fun segments => some (ofReversed (isAbsolute directory) segments)) same

/-- A path that ends in a component has nothing to leave out at its end. -/
theorem trimmed_join {name : String} (component : IsComponent name) (directory : String) :
    trimmed (join directory name) = join directory name := by
  obtain ⟨rest, cut, -⟩ := exists_segments_join component directory
  have kept : dropSkipped (segments (join directory name)).reverse =
      (segments (join directory name)).reverse := by
    rw [cut, List.reverse_concat,
      dropSkipped_cons_of_filled component.toList_ne_nil component.toList_ne_dot]
  have someSegment : (segments (join directory name)).reverse.isEmpty = false := by simp [cut]
  rw [trimmed, kept, ofReversed, someSegment, List.reverse_reverse, segments,
    Text.intercalate_splitWhere, String.ofList_toList]
  rfl

/-! ## Working directories -/

/-- The absolute path of a place. -/
def ofPlace (names : List String) : String :=
  "/" ++ "/".intercalate names

theorem exists_ofPlace_append_singleton (names : List String) (name : String) :
    ∃ front, ofPlace (names ++ [name]) = front ++ name := by
  cases names with
  | nil => exact ⟨"/", by simp [ofPlace]⟩
  | cons first rest =>
      refine ⟨ofPlace (first :: rest) ++ "/", ?_⟩
      rw [ofPlace, String.intercalate_append_of_ne_nil (by simp) (by simp),
        String.intercalate_singleton, ofPlace]
      simp only [String.append_assoc]

/-- The path of something directly inside a place. -/
theorem ofPlace_append_singleton {names : List String}
    (components : ∀ name ∈ names, IsComponent name) {name : String}
    (component : IsComponent name) : ofPlace (names ++ [name]) = join (ofPlace names) name := by
  have relative := isAbsolute_eq_false_of_noSlash component.noSlash
  rcases List.eq_nil_or_concat names with rfl | ⟨before, last, rfl⟩
  · rw [join, relative]
    simp [ofPlace]
  · rw [List.concat_eq_append] at components ⊢
    obtain ⟨front, shape⟩ := exists_ofPlace_append_singleton before last
    have lastComponent := components last (by simp)
    have noSlash : (ofPlace (before ++ [last])).toList.getLast? ≠ some '/' := by
      obtain ⟨cs, c, isLast⟩ :=
        (List.eq_nil_or_concat last.toList).resolve_left lastComponent.toList_ne_nil
      have inName : c ∈ last.toList := by simp [isLast]
      have apart := ne_of_mem_of_not_mem inName lastComponent.noSlash
      simpa [shape, isLast] using apart
    have filled : (ofPlace (before ++ [last])).isEmpty = false := by simp [ofPlace]
    rw [join, relative, filled, Bool.or_self, if_neg Bool.false_ne_true,
      if_neg (by simpa using noSlash), ofPlace,
      String.intercalate_append_of_ne_nil (by simp) (by simp), String.intercalate_singleton,
      ofPlace]
    simp only [String.append_assoc]

theorem trimmed_ofPlace {names : List String} (components : ∀ name ∈ names, IsComponent name) :
    trimmed (ofPlace names) = ofPlace names := by
  rcases List.eq_nil_or_concat names with rfl | ⟨before, last, rfl⟩
  · decide
  · rw [List.concat_eq_append] at components ⊢
    rw [ofPlace_append_singleton (fun name member => components name (by simp [member]))
      (components last (by simp)), trimmed_join (components last (by simp))]

theorem parent?_ofPlace_append_singleton {names : List String} {name : String}
    (components : ∀ other ∈ names ++ [name], IsComponent other) :
    parent? (ofPlace (names ++ [name])) = some (ofPlace names) := by
  have inFront := fun other member => components other (List.mem_append_left [name] member)
  have component := components name (by simp)
  rw [ofPlace_append_singleton inFront component, parent?_join component, trimmed_ofPlace inFront]

theorem exists_prefix_of_mem_parentsWithin {fuel : Nat} {names : List String}
    (components : ∀ name ∈ names, IsComponent name) {directory : String}
    (member : directory ∈ parentsWithin fuel (ofPlace names)) :
    ∃ front, front <+: names ∧ directory = ofPlace front := by
  induction fuel generalizing names with
  | zero => exact absurd member List.not_mem_nil
  | succ fuel ih =>
      rcases List.eq_nil_or_concat names with rfl | ⟨before, last, rfl⟩
      · exact absurd member List.not_mem_nil
      · rw [List.concat_eq_append] at components member ⊢
        have inFront := List.prefix_append before [last]
        rw [parentsWithin, parent?_ofPlace_append_singleton components] at member
        rcases List.mem_cons.mp member with rfl | further
        · exact ⟨before, inFront, rfl⟩
        · obtain ⟨front, isFront, rfl⟩ :=
            ih (fun name inBefore => components name (inFront.subset inBefore)) further
          exact ⟨front, isFront.trans inFront, rfl⟩

/-- The places around a place are those of the beginnings of its names. -/
theorem exists_prefix_of_mem_ancestors {names : List String}
    (components : ∀ name ∈ names, IsComponent name) {directory : String}
    (member : directory ∈ ancestors (ofPlace names)) :
    ∃ front, front <+: names ∧ directory = ofPlace front := by
  rcases List.mem_cons.mp member with rfl | further
  · exact ⟨names, List.prefix_rfl, rfl⟩
  · exact exists_prefix_of_mem_parentsWithin components further

/-- What is joined onto a working directory, or onto a directory around it, has it as parent. -/
theorem parent?_join_of_mem_ancestors {names : List String}
    (components : ∀ name ∈ names, IsComponent name) {directory : String}
    (member : directory ∈ ancestors (ofPlace names)) {name : String}
    (component : IsComponent name) : parent? (join directory name) = some directory := by
  obtain ⟨front, isFront, rfl⟩ := exists_prefix_of_mem_ancestors components member
  rw [parent?_join component, trimmed_ofPlace fun other inFront =>
    components other (isFront.subset inFront)]

end Path
end BindingGen
