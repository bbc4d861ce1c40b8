import BindingGen.Proofs.Source.Rendering
import BindingGen.Proofs.Text.Words
import BindingGen.Prototype.Parse
import Mathlib.Data.List.Basic

/-!
# The frame of a class

The lines of a class are those of its frame around those of its declarations.  The two are told
apart by their first character that is not blank, so a name that settings put into the frame is
never taken for a declaration, nor a declaration for a line of the frame.
-/

namespace BindingGen
namespace SourceFile

open Text Writer

/-- The text between a start and a stop, for a line that has both. -/
def between? (start stop line : List Char) : Option (List Char) :=
  (line.dropPrefix? start).bind fun rest => rest.dropSuffix? stop

@[simp]
theorem between?_eq_some_iff {start stop line cs : List Char} :
    between? start stop line = some cs ↔ line = start ++ (cs ++ stop) := by
  simp [between?, Option.bind_eq_some_iff, List.dropPrefix?_eq_some_iff,
    List.dropSuffix?_eq_some_iff]

/-- The first character of a line that is not blank. -/
def initial (line : List Char) : Option Char :=
  line.find? fun c => !isBlank c

theorem initial_append_of_blank {before : List Char} (blank : ∀ c ∈ before, isBlank c = true)
    (line : List Char) : initial (before ++ line) = initial line := by
  have skipped : (before.find? fun c => !isBlank c) = none := by simpa using blank
  rw [initial, List.find?_append, skipped]
  rfl

theorem initial_append {before : List Char} {c : Char} (starts : initial before = some c)
    (line : List Char) : initial (before ++ line) = some c := by
  rw [initial] at starts
  rw [initial, List.find?_append, starts]
  rfl

@[simp]
theorem initial_trim (line : List Char) : initial (trim line) = initial line := by
  obtain ⟨before, after, blank, alsoBlank, shape⟩ := exists_append_trim_append line
  have onlyBlanks : initial after = none := by simpa [initial] using alsoBlank
  conv => rhs; rw [shape, initial_append_of_blank blank]
  cases starts : initial (trim line) with
  | some c => exact (initial_append starts after).symm
  | none =>
      have nothing : ∀ c ∈ trim line, isBlank c = true := by simpa [initial] using starts
      rw [initial_append_of_blank nothing, onlyBlanks]

@[simp]
theorem initial_indented (depth : Nat) (content : String) :
    initial (indented depth content).toList = initial content.toList := by
  unfold indented
  split
  next isEmpty => rw [String.isEmpty_iff.mp isEmpty]
  next =>
    rw [String.toList_append]
    refine initial_append_of_blank (fun c member => ?_) content.toList
    simp only [indentation, String.toList_ofList, List.mem_replicate] at member
    rw [member.2]
    decide

/-- Only lines that start with a certain character pass a test. -/
def Marks (c : Char) (test : List Char → Bool) : Prop :=
  ∀ line, test line = true → initial line = some c

theorem Marks.eq_false {c : Char} {test : List Char → Bool} (marks : Marks c test)
    {line : List Char} (differs : initial line ≠ some c) : test line = false := by
  rw [← Bool.not_eq_true]
  exact fun passes => differs (marks line passes)

theorem marks_trim {c : Char} (filled : isBlank c = false) :
    Marks c fun line => trim line == [c] := by
  intro line same
  rw [← initial_trim, eq_of_beq same]
  simp [initial, filled]

theorem marks_isPrefixOf {start : List Char} {c : Char} (begins : initial start = some c) :
    Marks c fun line => start.isPrefixOf line := by
  intro line isStart
  obtain ⟨rest, rfl⟩ := List.isPrefixOf_iff_prefix.mp isStart
  exact initial_append begins rest

theorem marks_between? {start : List Char} {c : Char} (begins : initial start = some c)
    (stop : List Char) : Marks c fun line => (between? start stop line).isSome := by
  intro line isSome
  obtain ⟨cs, found⟩ := Option.isSome_iff_exists.mp isSome
  rw [between?_eq_some_iff.mp found]
  exact initial_append begins (cs ++ stop)

theorem between?_eq_none {start : List Char} {c : Char} (begins : initial start = some c)
    (stop : List Char) {line : List Char} (differs : initial line ≠ some c) :
    between? start stop line = none :=
  Option.not_isSome_iff_eq_none.mp (by simp [(marks_between? begins stop).eq_false differs])

/-! ## Frames -/

/-- The lines of a class that declare are one for each prototype, in order, and two blocks and one
condition frame them. -/
structure IsClassOf (start stop : List Char) (ps : List Prototype) (lines : List (List Char)) :
    Prop where
  declared : (lines.filterMap (between? start stop)).map
    (fun cs => Prototype.parse (String.ofList cs)) = ps.map .ok
  opened : lines.countP (fun line => trim line == ['\x7b']) = 2
  closed : lines.countP (fun line => trim line == ['\x7d']) = 2
  guarded : lines.countP (fun line => ['#', 'i', 'f', ' '].isPrefixOf line) = 1
  ended : lines.getLast? = some "#endif".toList

/-- The lines of a class in front of its declarations. -/
def opening (s : Settings) (guard : String) : List (List Char) :=
  ["#if " ++ guard, "using System.Runtime.InteropServices;", "namespace " ++ s.namespaceName,
    "\x7b", indented 1 ("internal static class " ++ s.className), indented 1 "\x7b"].map
    String.toList

/-- The lines of a class behind its declarations. -/
def closing : List (List Char) :=
  [indented 1 "\x7d", "\x7d", "#endif"].map String.toList

theorem toList_classLines (s : Settings) (guard : String) (declarations : List String) :
    (classLines s guard declarations).map String.toList =
      opening s guard ++ (declarations.map fun d => (indented 2 d).toList) ++ closing := by
  simp [classLines, opening, closing]

theorem initial_guardLine (guard : String) : initial ("#if " ++ guard).toList = some '#' := by
  rw [String.toList_append]
  exact initial_append rfl guard.toList

theorem initial_namespaceLine (name : String) :
    initial ("namespace " ++ name).toList = some 'n' := by
  rw [String.toList_append]
  exact initial_append rfl name.toList

theorem initial_classLine (name : String) :
    initial (indented 1 ("internal static class " ++ name)).toList = some 'i' := by
  rw [initial_indented, String.toList_append]
  exact initial_append rfl name.toList

theorem initial_ne_of_mem_opening {s : Settings} {guard : String} {line : List Char}
    (member : line ∈ opening s guard) {c : Char} (other : c ∉ ['#', 'u', 'n', 'i', '\x7b']) :
    initial line ≠ some c := by
  have starts : initial line ∈ ['#', 'u', 'n', 'i', '\x7b'].map some := by
    simp only [opening, List.map_cons, List.map_nil, List.mem_cons, List.not_mem_nil, or_false]
      at member
    rcases member with rfl | rfl | rfl | rfl | rfl | rfl
    · rw [initial_guardLine]
      decide
    · decide
    · rw [initial_namespaceLine]
      decide
    · decide
    · rw [initial_classLine]
      decide
    · decide
  intro same
  rw [same] at starts
  exact other (by simpa using starts)

theorem initial_ne_of_mem_closing {line : List Char} (member : line ∈ closing) {c : Char}
    (other : c ∉ ['\x7d', '#']) : initial line ≠ some c := by
  have starts : ∀ line ∈ closing, initial line ∈ ['\x7d', '#'].map some := by decide
  intro same
  have isFrame := starts line member
  rw [same] at isFrame
  exact other (by simpa using isFrame)

/-- Of the lines of a class, only those of its frame pass a test that no declaration does. -/
theorem countP_classLines {c : Char} {test : List Char → Bool} (marks : Marks c test)
    (s : Settings) (guard : String) {declarations : List String}
    (others : ∀ d ∈ declarations, initial d.toList ≠ some c) :
    ((classLines s guard declarations).map String.toList).countP test =
      (opening s guard).countP test + closing.countP test := by
  have inside : (declarations.map fun d => (indented 2 d).toList).countP test = 0 := by
    refine List.countP_eq_zero.mpr fun line member => ?_
    obtain ⟨d, isDeclared, rfl⟩ := List.mem_map.mp member
    have differs := others d isDeclared
    rw [← initial_indented 2] at differs
    simp [marks.eq_false differs]
  rw [toList_classLines, List.countP_append, List.countP_append, inside]
  rfl

@[simp]
theorem countP_opens_opening (s : Settings) (guard : String) :
    (opening s guard).countP (fun line => trim line == ['\x7b']) = 2 := by
  have marks : Marks '\x7b' fun line => trim line == ['\x7b'] := marks_trim (by decide)
  have guardLine := marks.eq_false ((initial_guardLine guard).trans_ne (by decide))
  have namespaceLine :=
    marks.eq_false ((initial_namespaceLine s.namespaceName).trans_ne (by decide))
  have classLine := marks.eq_false ((initial_classLine s.className).trans_ne (by decide))
  simp only [opening, List.map_cons, List.map_nil, List.countP_cons, guardLine, namespaceLine,
    classLine]
  rfl

@[simp]
theorem countP_guards_opening (s : Settings) (guard : String) :
    (opening s guard).countP (fun line => ['#', 'i', 'f', ' '].isPrefixOf line) = 1 := by
  have marks : Marks '#' fun line => ['#', 'i', 'f', ' '].isPrefixOf line := marks_isPrefixOf rfl
  have guardLine : ['#', 'i', 'f', ' '].isPrefixOf ("#if " ++ guard).toList = true := by
    rw [String.toList_append]
    exact List.isPrefixOf_iff_prefix.mpr (List.prefix_append _ _)
  have namespaceLine :=
    marks.eq_false ((initial_namespaceLine s.namespaceName).trans_ne (by decide))
  have classLine := marks.eq_false ((initial_classLine s.className).trans_ne (by decide))
  simp only [opening, List.map_cons, List.map_nil, List.countP_cons, guardLine, namespaceLine,
    classLine]
  rfl

theorem filterMap_between?_classLines {start : List Char} (begins : initial start = some 'p')
    (stop : List Char) (s : Settings) (guard : String) (declarations : List String) :
    ((classLines s guard declarations).map String.toList).filterMap (between? start stop) =
      (declarations.map fun d => (indented 2 d).toList).filterMap (between? start stop) := by
  have before : (opening s guard).filterMap (between? start stop) = [] :=
    List.filterMap_eq_nil_iff.mpr fun _ member =>
      between?_eq_none begins stop (initial_ne_of_mem_opening member (by decide))
  have after : closing.filterMap (between? start stop) = [] :=
    List.filterMap_eq_nil_iff.mpr fun _ member =>
      between?_eq_none begins stop (initial_ne_of_mem_closing member (by decide))
  rw [toList_classLines, List.filterMap_append, List.filterMap_append, before, after]
  simp

/-- A class is one of some prototypes when its declarations spell their signatures in order. -/
theorem isClassOf_classLines {start stop : List Char} (begins : initial start = some 'p')
    {ps : List Prototype} (parsed : ∀ p ∈ ps, Prototype.parse p.signature = .ok p) (s : Settings)
    (guard : String) {declarations : List String}
    (inside : ∀ d ∈ declarations, initial d.toList ∈ [some 'p', some '['])
    (declared : (declarations.map fun d => (indented 2 d).toList).filterMap (between? start stop) =
      ps.map fun p => p.signature.toList) :
    IsClassOf start stop ps ((classLines s guard declarations).map String.toList) := by
  have others {c : Char} (other : some c ∉ [some 'p', some '[']) :
      ∀ d ∈ declarations, initial d.toList ≠ some c := by
    rintro d isDeclared same
    exact other (same ▸ inside d isDeclared)
  constructor
  case declared =>
    rw [filterMap_between?_classLines begins, declared, List.map_map]
    refine List.map_congr_left fun p member => ?_
    rw [Function.comp_apply, String.ofList_toList]
    exact parsed p member
  case opened =>
    rw [countP_classLines (marks_trim (by decide)) s guard (others (by decide)),
      countP_opens_opening]
    rfl
  case closed =>
    have marks : Marks '\x7d' fun line => trim line == ['\x7d'] := marks_trim (by decide)
    have before : (opening s guard).countP (fun line => trim line == ['\x7d']) = 0 := by
      refine List.countP_eq_zero.mpr fun line member => ?_
      simp [marks.eq_false (initial_ne_of_mem_opening member (by decide))]
    rw [countP_classLines marks s guard (others (by decide)), before]
    rfl
  case guarded =>
    rw [countP_classLines (marks_isPrefixOf rfl) s guard (others (by decide)),
      countP_guards_opening]
    rfl
  case ended =>
    rw [toList_classLines]
    simp [closing]

end SourceFile
end BindingGen
