import BindingGen.Proofs.Steps
import BindingGen.Source.Emission

/-!
# The lines of a generated file

A writer at some depth is determined by the lines that it holds.  Every writer that emission goes
through is of that form, so no block is closed too often or left open: emission always succeeds,
and its text is a list of lines that can be written down.
-/

namespace BindingGen

/-- Lines, each followed by the characters that end it. -/
def LineEnding.terminate (ending : LineEnding) (lines : List String) : String :=
  String.join (lines.map (· ++ ending.text))

@[simp]
theorem LineEnding.terminate_append (ending : LineEnding) (first second : List String) :
    ending.terminate (first ++ second) = ending.terminate first ++ ending.terminate second := by
  simp [terminate, String.join_append]

namespace Writer

/-- The line that some content becomes at a depth. -/
def indented (depth : Nat) (content : String) : String :=
  if content.isEmpty then "" else indentation depth ++ content

@[simp]
theorem indented_zero (content : String) : indented 0 content = content := by
  unfold indented
  split
  next isEmpty => exact (String.isEmpty_iff.mp isEmpty).symm
  next => simp [indentation]

/-- The writer at a depth that holds some lines. -/
def ofLines (ending : LineEnding) (depth : Nat) (lines : List String) : Writer :=
  ⟨ending, depth, ending.terminate lines⟩

variable (ending : LineEnding) (depth : Nat) (lines : List String)

theorem empty_eq_ofLines : empty ending = ofLines ending 0 [] :=
  rfl

@[simp]
theorem line_ofLines (content : String) :
    (ofLines ending depth lines).line content =
      ofLines ending depth (lines ++ [indented depth content]) := by
  have added : ending.terminate (lines ++ [indented depth content]) =
      ending.terminate lines ++ (indented depth content ++ ending.text) := by
    rw [LineEnding.terminate_append]
    simp [LineEnding.terminate]
  unfold line ofLines
  rw [added]
  unfold indented
  split <;> simp [String.append_assoc]

@[simp]
theorem openBlock_ofLines :
    (ofLines ending depth lines).openBlock =
      ofLines ending (depth + 1) (lines ++ [indented depth "\x7b"]) := by
  unfold openBlock
  rw [line_ofLines]
  rfl

@[simp]
theorem tryClose_ofLines :
    (ofLines ending (depth + 1) lines).tryClose =
      (.ok (), ofLines ending depth (lines ++ [indented depth "\x7d"])) := by
  rw [← line_ofLines]
  rfl

@[simp]
theorem closeBlock_ofLines :
    (ofLines ending (depth + 1) lines).closeBlock =
      .ok (ofLines ending depth (lines ++ [indented depth "\x7d"])) := by
  rw [closeBlock, tryClose_ofLines]

@[simp]
theorem finish_ofLines_zero : (ofLines ending 0 lines).finish = .ok (ending.terminate lines) :=
  rfl

@[simp]
theorem foldl_line_ofLines (contents : List String) :
    contents.foldl line (ofLines ending depth lines) =
      ofLines ending depth (lines ++ contents.map (indented depth)) := by
  induction contents generalizing lines with
  | nil => simp
  | cons content contents ih =>
      rw [List.foldl_cons, line_ofLines, ih]
      simp

end Writer

namespace SourceFile

open Writer

/-- The lines of a class: its frame around the declarations inside it. -/
def classLines (s : Settings) (guard : String) (declarations : List String) : List String :=
  ["#if " ++ guard, "using System.Runtime.InteropServices;", "namespace " ++ s.namespaceName,
      "\x7b", indented 1 ("internal static class " ++ s.className), indented 1 "\x7b"] ++
    declarations.map (indented 2) ++ [indented 1 "\x7d", "\x7d", "#endif"]

/-- A class whose prototypes each add some declarations is emitted with all of them in order. -/
theorem classText_eq (s : Settings) (guard : String) {lines : Writer → Prototype → Writer}
    {declarations : Prototype → List String}
    (adds : ∀ w p, lines w p = (declarations p).foldl line w) (prototypes : List Prototype) :
    classText s guard lines prototypes =
      .ok (s.lineEnding.terminate
        (classLines s guard (prototypes.flatMap declarations))) := by
  have body (w : Writer) :
      prototypes.foldl lines w = (prototypes.flatMap declarations).foldl line w := by
    rw [List.foldl_flatMap]
    congr 1
    funext w p
    exact adds w p
  simp [classText, classLines, body, empty_eq_ofLines, toString]

/-- The attribute that binds a name to its function in a library. -/
def attributeLine (library name : String) : String :=
  "[DllImport(\"" ++ library ++ "\", EntryPoint = \"" ++ name ++ "\", " ++
    "CallingConvention = CallingConvention.Cdecl)]"

def bindingDeclarations (library : String) (p : Prototype) : List String :=
  [attributeLine library p.name, "public static extern unsafe " ++ p.signature ++ ";"]

def referenceDeclaration (p : Prototype) : String :=
  "public static unsafe " ++ p.signature ++ " => throw null;"

def bindingText (s : Settings) (p : Platform) (prototypes : List Prototype) : String :=
  s.lineEnding.terminate (classLines s (bindingGuard s p)
    (prototypes.flatMap (bindingDeclarations (p.libraryFileName s.libraryStem))))

def referenceText (s : Settings) (prototypes : List Prototype) : String :=
  s.lineEnding.terminate (classLines s (referenceGuard s) (prototypes.map referenceDeclaration))

def exportText (s : Settings) (prototypes : List Prototype) : String :=
  s.lineEnding.terminate (prototypes.map fun p => s.exportStyle.directive p.name)

theorem bindingLines_eq (library : String) (w : Writer) (p : Prototype) :
    bindingLines library w p = (bindingDeclarations library p).foldl line w := by
  have attributed : (s!"[DllImport(\"{library}\", EntryPoint = \"{p.name}\", " ++
      "CallingConvention = CallingConvention.Cdecl)]") = attributeLine library p.name := rfl
  have declared : s!"public static extern unsafe {p.signature};" =
      "public static extern unsafe " ++ p.signature ++ ";" := rfl
  rw [bindingLines, attributed, declared]
  rfl

@[simp]
theorem binding_eq (s : Settings) (p : Platform) (prototypes : List Prototype) :
    binding s p prototypes = .ok ⟨s.bindingFile p, bindingText s p prototypes⟩ := by
  unfold binding
  rw [classText_eq s (bindingGuard s p) (bindingLines_eq _)]
  rfl

@[simp]
theorem reference_eq (s : Settings) (prototypes : List Prototype) :
    reference s prototypes = .ok ⟨s.referenceFile, referenceText s prototypes⟩ := by
  have adds (w : Writer) (q : Prototype) :
      referenceLines w q = [referenceDeclaration q].foldl line w := by
    rw [List.foldl_cons, List.foldl_nil, referenceLines]
    exact congrArg w.line rfl
  unfold reference
  rw [classText_eq s (referenceGuard s) adds, referenceText, List.map_eq_flatMap]
  rfl

@[simp]
theorem exportList_eq (s : Settings) (prototypes : List Prototype) :
    exportList s prototypes = .ok ⟨s.exportFile, exportText s prototypes⟩ := by
  have written := foldl_line_ofLines s.lineEnding 0 []
    (prototypes.map fun p => s.exportStyle.directive p.name)
  rw [List.foldl_map] at written
  unfold exportList
  rw [empty_eq_ofLines, written, finish_ofLines_zero]
  simp [named, exportText, Function.comp_def]

end SourceFile
end BindingGen
