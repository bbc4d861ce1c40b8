import BindingGen.Platform.Catalog
import BindingGen.Source.Writer

/-!
# Settings of a generation run

The settings name what the generated files contain and how the files themselves are called.
Names that are pasted into source text have to be identifiers, and names of files have to be
single path components.
-/

namespace BindingGen

/-- The form of a line in the export list. -/
inductive ExportStyle where
  | plain
  /-- An option for the command line of a linker. -/
  | msvc
  deriving DecidableEq, Repr, Inhabited

/-- The line that exports one symbol. -/
def ExportStyle.directive (style : ExportStyle) (symbol : String) : String :=
  match style with
  | plain => s!"export {symbol}"
  | msvc => s!"/link /export:{symbol}"

structure Settings where
  namespaceName : String
  className : String
  filePrefix : String
  /-- The preprocessor symbol that selects the reference file. -/
  referenceSymbol : String
  exportFile : String
  exportStyle : ExportStyle
  lineEnding : LineEnding
  /-- The part of a library's file name that does not depend on the platform. -/
  libraryStem : String
  /-- Whether a name may be declared more than once. -/
  keepRepeated : Bool
  platforms : Catalog
  deriving DecidableEq, Repr

namespace Settings

def standard : Settings where
  namespaceName := "BearSSL"
  className := "NativeCalls"
  filePrefix := "NativeCalls"
  referenceSymbol := "REFERENCE_ASSEMBLY"
  exportFile := "linkcommands"
  exportStyle := .plain
  lineEnding := .lf
  libraryStem := "bearssl"
  keepRepeated := false
  platforms := Platform.builtin

instance : Inhabited Settings := ⟨standard⟩

def bindingFile (s : Settings) (p : Platform) : String :=
  s!"{s.filePrefix}.{p.id}.cs"

def referenceFile (s : Settings) : String :=
  s!"{s.filePrefix}.ref.cs"

/-- The settings whose values are checked. -/
inductive Key where
  | namespaceName
  | className
  | referenceSymbol
  | filePrefix
  | exportFile
  deriving DecidableEq, Repr

/-- The name of a setting in a manifest. -/
def Key.text : Key → String
  | namespaceName => "namespace"
  | className => "class"
  | referenceSymbol => "reference-symbol"
  | filePrefix => "file-prefix"
  | exportFile => "export-file"

inductive Fault where
  | invalidSymbol (key : Key) (value : String)
  | invalidFileName (key : Key) (value : String)
  deriving DecidableEq, Repr

def Fault.message : Fault → String
  | .invalidSymbol key value => s!"{key.text} '{value}' is not a valid identifier"
  | .invalidFileName key value => s!"{key.text} '{value}' must be a plain file name"

/-- Whether a text is identifiers with dots between them. -/
def isQualifiedName (text : String) : Bool :=
  (Text.splitWhere (· == '.') text.toList).all Text.isIdentifier

def isSymbol (text : String) : Bool :=
  Text.isIdentifier text.toList

/-- Whether a text is a single path component on every system. -/
def isPlainFileName (text : String) : Bool :=
  !text.isEmpty && text != "." && text != ".." &&
    text.toList.all fun c => c != '/' && c != '\\' && c != ':' && c != '\x00'

/-- Accepts settings that can be pasted into source text and joined onto a directory. -/
def validate (s : Settings) : Except Fault Unit :=
  if !isQualifiedName s.namespaceName then .error (.invalidSymbol .namespaceName s.namespaceName)
  else if !isSymbol s.className then .error (.invalidSymbol .className s.className)
  else if !isSymbol s.referenceSymbol then
    .error (.invalidSymbol .referenceSymbol s.referenceSymbol)
  else if !isPlainFileName s.filePrefix then .error (.invalidFileName .filePrefix s.filePrefix)
  else if !isPlainFileName s.exportFile then .error (.invalidFileName .exportFile s.exportFile)
  else .ok ()

end Settings
end BindingGen
