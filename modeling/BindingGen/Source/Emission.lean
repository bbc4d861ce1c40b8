import BindingGen.Prototype.Basic
import BindingGen.Settings

/-!
# The generated files

A run generates one binding file for every platform, one reference file that compiles without
any native library, and one list of exported symbols.  Binding and reference files share a frame:
a conditional section that holds one static class, with one or two lines for every prototype.
-/

namespace BindingGen

/-- A generated file before it is written. -/
structure SourceFile where
  name : String
  contents : String
  deriving DecidableEq, Repr

namespace SourceFile

/-- A file whose text was left with open blocks. -/
structure Fault where
  file : String
  cause : Writer.Fault
  deriving DecidableEq, Repr

def Fault.message (fault : Fault) : String :=
  s!"{fault.file}: {fault.cause.message}"

/-- The condition under which a binding file is compiled. -/
def bindingGuard (s : Settings) (p : Platform) : String :=
  s!"{p.constant} && !{s.referenceSymbol}"

/-- The condition under which the reference file is compiled. -/
def referenceGuard (s : Settings) : String :=
  s.referenceSymbol

/-- Writes the declaration of a function that calls into the native library. -/
def bindingLines (library : String) (w : Writer) (p : Prototype) : Writer :=
  (w.line (s!"[DllImport(\"{library}\", EntryPoint = \"{p.name}\", " ++
      "CallingConvention = CallingConvention.Cdecl)]")).line
    s!"public static extern unsafe {p.signature};"

/-- Writes the declaration of a function that cannot be called. -/
def referenceLines (w : Writer) (p : Prototype) : Writer :=
  w.line s!"public static unsafe {p.signature} => throw null;"

/-- Writes the frame of a class and, inside it, the lines of every prototype. -/
def classText (s : Settings) (guard : String) (lines : Writer → Prototype → Writer)
    (prototypes : List Prototype) : Except Writer.Fault String := do
  let start := (((((Writer.empty s.lineEnding).line s!"#if {guard}").line
    "using System.Runtime.InteropServices;").line s!"namespace {s.namespaceName}").openBlock.line
    s!"internal static class {s.className}").openBlock
  let outer ← (prototypes.foldl lines start).closeBlock
  let outermost ← outer.closeBlock
  (outermost.line "#endif").finish

/-- The text of a file, under its name. -/
def named (name : String) (text : Except Writer.Fault String) : Except Fault SourceFile :=
  match text with
  | .ok contents => .ok ⟨name, contents⟩
  | .error cause => .error ⟨name, cause⟩

def binding (s : Settings) (p : Platform) (prototypes : List Prototype) :
    Except Fault SourceFile :=
  named (s.bindingFile p)
    (classText s (bindingGuard s p) (bindingLines (p.libraryFileName s.libraryStem)) prototypes)

def reference (s : Settings) (prototypes : List Prototype) : Except Fault SourceFile :=
  named s.referenceFile (classText s (referenceGuard s) referenceLines prototypes)

def exportList (s : Settings) (prototypes : List Prototype) : Except Fault SourceFile :=
  named s.exportFile
    (prototypes.foldl (fun w p => w.line (s.exportStyle.directive p.name))
      (Writer.empty s.lineEnding)).finish

end SourceFile
end BindingGen
