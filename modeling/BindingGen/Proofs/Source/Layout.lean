import BindingGen.Proofs.Source.Rendering

/-!
# The texts of the generated files

Emission succeeds for any settings and prototypes, and its texts can be written down.  A class is
laid out around a body, and the bodies and the export list are those of single prototypes in a
row.
-/

namespace BindingGen
namespace SourceFile

open Writer

/-- The text of a class in front of its body. -/
def classStart (s : Settings) (guard : String) : String :=
  s.lineEnding.terminate
    ["#if " ++ guard,
      "using System.Runtime.InteropServices;",
      "namespace " ++ s.namespaceName,
      "\x7b",
      "    internal static class " ++ s.className,
      "    \x7b"]

/-- The text of a class behind its body. -/
def classEnd (s : Settings) : String :=
  s.lineEnding.terminate
    ["    \x7d",
      "\x7d",
      "#endif"]

def bindingBody (s : Settings) (p : Platform) (prototypes : List Prototype) : String :=
  s.lineEnding.terminate (prototypes.flatMap fun q =>
    ["        [DllImport(\"" ++ p.libraryFileName s.libraryStem ++ "\", EntryPoint = \"" ++
        q.name ++ "\", CallingConvention = CallingConvention.Cdecl)]",
      "        public static extern unsafe " ++ q.signature ++ ";"])

def referenceBody (s : Settings) (prototypes : List Prototype) : String :=
  s.lineEnding.terminate (prototypes.map fun q =>
    "        public static unsafe " ++ q.signature ++ " => throw null;")

/-! ## Bodies and frames -/

/-- A line that starts with a text is indented in front of that text. -/
theorem indented_append (first : String) (filled : first ≠ "") (depth : Nat) (second : String) :
    indented depth (first ++ second) = indentation depth ++ first ++ second := by
  simp [indented, String.isEmpty_iff, String.append_eq_empty_iff, filled, String.append_assoc]

theorem terminate_classLines (s : Settings) (guard : String) (declarations : List String) :
    s.lineEnding.terminate (classLines s guard declarations) =
      classStart s guard ++ s.lineEnding.terminate (declarations.map (indented 2)) ++
        classEnd s := by
  rw [classLines, indented_append "internal static class " (by decide), LineEnding.terminate_append,
    LineEnding.terminate_append]
  rfl

theorem indented_around (start : String) (filled : start ≠ "") (depth : Nat)
    (content stop : String) :
    indented depth (start ++ content ++ stop) =
      indentation depth ++ start ++ content ++ stop := by
  rw [String.append_assoc, indented_append start filled, ← String.append_assoc]

@[simp]
theorem indentation_two : indentation 2 = "        " :=
  rfl

theorem indented_attributeLine (library name : String) :
    indented 2 (attributeLine library name) =
      "        [DllImport(\"" ++ library ++ "\", EntryPoint = \"" ++ name ++
        "\", CallingConvention = CallingConvention.Cdecl)]" := by
  have shape : attributeLine library name =
      "[DllImport(\"" ++ library ++ ("\", EntryPoint = \"" ++ name ++
        "\", CallingConvention = CallingConvention.Cdecl)]") := by
    unfold attributeLine
    simp only [String.append_assoc, String.reduceAppend]
  rw [shape, indented_around "[DllImport(\"" (by decide)]
  simp only [indentation_two, String.reduceAppend, String.append_assoc]

theorem bindingText_eq (s : Settings) (p : Platform) (prototypes : List Prototype) :
    bindingText s p prototypes =
      classStart s (bindingGuard s p) ++ bindingBody s p prototypes ++ classEnd s := by
  have lines (q : Prototype) :
      (bindingDeclarations (p.libraryFileName s.libraryStem) q).map (indented 2) =
        ["        [DllImport(\"" ++ p.libraryFileName s.libraryStem ++ "\", EntryPoint = \"" ++
            q.name ++ "\", CallingConvention = CallingConvention.Cdecl)]",
          "        public static extern unsafe " ++ q.signature ++ ";"] := by
    unfold bindingDeclarations
    rewrite [List.map_cons, List.map_cons, List.map_nil, indented_attributeLine,
      indented_around "public static extern unsafe " (by decide), indentation_two]
    simp only [String.reduceAppend]
  rw [bindingText, terminate_classLines, List.map_flatMap]
  simp only [lines]
  rfl

theorem referenceText_eq (s : Settings) (prototypes : List Prototype) :
    referenceText s prototypes =
      classStart s s.referenceSymbol ++ referenceBody s prototypes ++ classEnd s := by
  have line (q : Prototype) : indented 2 (referenceDeclaration q) =
      "        public static unsafe " ++ q.signature ++ " => throw null;" := by
    unfold referenceDeclaration
    rewrite [indented_around "public static unsafe " (by decide), indentation_two]
    simp only [String.reduceAppend]
  rw [referenceText, terminate_classLines, List.map_map, Function.comp_def]
  simp only [line]
  rfl

/-- Whatever the settings and the prototypes are, every file is emitted: a class around a body of
two lines or one for each prototype, or a directive for each.  The platforms decide nothing but
the binding files, and the texts of prototypes in a row follow each other. -/
theorem emitted_texts (s : Settings) (p : Platform) (prototypes later : List Prototype) :
    binding s p prototypes = .ok ⟨s.bindingFile p,
        classStart s (p.constant ++ " && !" ++ s.referenceSymbol) ++ bindingBody s p prototypes ++
          classEnd s⟩ ∧
      reference s prototypes = .ok ⟨s.referenceFile,
        classStart s s.referenceSymbol ++ referenceBody s prototypes ++ classEnd s⟩ ∧
      exportList s prototypes = .ok ⟨s.exportFile,
        s.lineEnding.terminate (prototypes.map fun q => s.exportStyle.directive q.name)⟩ ∧
      (∀ platforms,
        reference { s with platforms } prototypes = reference s prototypes ∧
          exportList { s with platforms } prototypes = exportList s prototypes) ∧
      bindingBody s p (prototypes ++ later) =
        bindingBody s p prototypes ++ bindingBody s p later ∧
      referenceBody s (prototypes ++ later) =
        referenceBody s prototypes ++ referenceBody s later ∧
      exportText s (prototypes ++ later) = exportText s prototypes ++ exportText s later := by
  have guard : bindingGuard s p = p.constant ++ " && !" ++ s.referenceSymbol := rfl
  refine ⟨?_, ?_, exportList_eq s prototypes, fun platforms => ⟨?_, ?_⟩, ?_, ?_, ?_⟩
  · rw [binding_eq, bindingText_eq, guard]
  · rw [reference_eq, referenceText_eq]
  · rw [reference_eq, reference_eq]
    rfl
  · rw [exportList_eq, exportList_eq]
    rfl
  · rw [bindingBody, List.flatMap_append, LineEnding.terminate_append]
    rfl
  · rw [referenceBody, List.map_append, LineEnding.terminate_append]
    rfl
  · rw [exportText, List.map_append, LineEnding.terminate_append]
    rfl

end SourceFile
end BindingGen
