import BindingGen.Platform.CatalogFile
import BindingGen.Settings

/-!
# Manifests

A manifest is a TOML file that changes some settings of a generation run and leaves the others
at their standard values.  It may name a catalog file of its own, relative to its directory, and
the platforms of that catalog to generate files for.  The manifest in force is the nearest one
in a directory or in one of its parents.
-/

namespace BindingGen

open Toml (ShapeFault Value)

/-- Names and forms of the generated files. -/
structure OutputSection where
  namespaceName : Option String
  className : Option String
  filePrefix : Option String
  referenceSymbol : Option String
  exportFile : Option String
  exportStyle : Option ExportStyle
  lineEnding : Option LineEnding
  deriving DecidableEq, Repr, Inhabited

structure LibrarySection where
  stem : Option String
  deriving DecidableEq, Repr, Inhabited

structure InputSection where
  keepRepeated : Option Bool
  deriving DecidableEq, Repr, Inhabited

structure TargetsSection where
  /-- The ids of the platforms to generate files for; every platform when it is not set. -/
  platforms : Option (List String)
  /-- The path of a catalog file. -/
  catalog : Option String
  deriving DecidableEq, Repr, Inhabited

structure Manifest where
  output : OutputSection
  library : LibrarySection
  input : InputSection
  targets : TargetsSection
  deriving DecidableEq, Repr, Inhabited

def ExportStyle.ofName : String → ExportStyle
  | "msvc" => .msvc
  | _ => .plain

def LineEnding.ofName : String → LineEnding
  | "crlf" => .crlf
  | _ => .lf

/-! ## Reading -/

namespace OutputSection

def empty : OutputSection := ⟨none, none, none, none, none, none, none⟩

def fieldNames : List String :=
  ["namespace", "class", "file-prefix", "reference-symbol", "export-file", "export-style",
    "line-ending"]

def add (sec : OutputSection) (field : String × Value) : Except ShapeFault OutputSection :=
  let text := field.2.readText "a string"
  match field.1 with
  | "namespace" => text.map fun v => { sec with namespaceName := some v }
  | "class" => text.map fun v => { sec with className := some v }
  | "file-prefix" => text.map fun v => { sec with filePrefix := some v }
  | "reference-symbol" => text.map fun v => { sec with referenceSymbol := some v }
  | "export-file" => text.map fun v => { sec with exportFile := some v }
  | "export-style" =>
    (field.2.readVariant ["plain", "msvc"]).map fun v =>
      { sec with exportStyle := some (.ofName v) }
  | "line-ending" =>
    (field.2.readVariant ["lf", "crlf"]).map fun v =>
      { sec with lineEnding := some (.ofName v) }
  | _ => .ok sec

def ofToml (value : Value) : Except ShapeFault OutputSection := do
  (← value.readFields "OutputConfig" fieldNames).foldlM add empty

end OutputSection

namespace LibrarySection

def add (sec : LibrarySection) (field : String × Value) : Except ShapeFault LibrarySection :=
  match field.1 with
  | "stem" => (field.2.readText "a string").map fun v => { sec with stem := some v }
  | _ => .ok sec

def ofToml (value : Value) : Except ShapeFault LibrarySection := do
  (← value.readFields "LibraryConfig" ["stem"]).foldlM add ⟨none⟩

end LibrarySection

namespace InputSection

def add (sec : InputSection) (field : String × Value) : Except ShapeFault InputSection :=
  match field.1 with
  | "allow-duplicates" => field.2.readBoolean.map fun v => { sec with keepRepeated := some v }
  | _ => .ok sec

def ofToml (value : Value) : Except ShapeFault InputSection := do
  (← value.readFields "InputConfig" ["allow-duplicates"]).foldlM add ⟨none⟩

end InputSection

namespace TargetsSection

def add (sec : TargetsSection) (field : String × Value) : Except ShapeFault TargetsSection :=
  match field.1 with
  | "platforms" =>
    (field.2.readArray (Value.readText "a string")).map fun v =>
      { sec with platforms := some v }
  | "catalog" => (field.2.readText "path string").map fun v => { sec with catalog := some v }
  | _ => .ok sec

def ofToml (value : Value) : Except ShapeFault TargetsSection := do
  (← value.readFields "TargetsConfig" ["platforms", "catalog"]).foldlM add ⟨none, none⟩

end TargetsSection

namespace Manifest

def empty : Manifest := ⟨.empty, ⟨none⟩, ⟨none⟩, ⟨none, none⟩⟩

def add (manifest : Manifest) (field : String × Value) : Except ShapeFault Manifest :=
  match field.1 with
  | "output" => (OutputSection.ofToml field.2).map fun v => { manifest with output := v }
  | "library" => (LibrarySection.ofToml field.2).map fun v => { manifest with library := v }
  | "input" => (InputSection.ofToml field.2).map fun v => { manifest with input := v }
  | "targets" => (TargetsSection.ofToml field.2).map fun v => { manifest with targets := v }
  | _ => .ok manifest

def readTable (value : Value) : Except ShapeFault Manifest := do
  (← value.readFields "Manifest" ["output", "library", "input", "targets"]).foldlM add empty

/-- The manifest of a TOML document. -/
def ofToml (text : String) : Except Toml.Fault Manifest :=
  Toml.load readTable text

/-! ## Resolving -/

/-- Why a manifest cannot be put to use. -/
inductive Fault where
  | reading (path : String) (fault : FileFault)
  | parsing (path : String) (fault : Toml.Fault)
  | catalog (path : String) (fault : Catalog.Fault)
  | platform (unknown : Catalog.UnknownPlatform)
  | settings (fault : Settings.Fault)
  deriving DecidableEq, Repr

/-- What went wrong, from the attempt to its last cause. -/
def Fault.chain : Fault → List String
  | .reading path fault => [s!"reading {path}", fault.message]
  | .parsing path fault => [s!"parsing {path}", fault.message]
  | .catalog path fault => s!"loading catalog {path}" :: fault.chain
  | .platform unknown => [unknown.message]
  | .settings fault => [fault.message]

/-- The settings with the values that a manifest sets, for the platforms of a catalog. -/
def overlay (manifest : Manifest) (catalog : Catalog) : Settings :=
  let standard := Settings.standard
  let output := manifest.output
  { namespaceName := output.namespaceName.getD standard.namespaceName
    className := output.className.getD standard.className
    filePrefix := output.filePrefix.getD standard.filePrefix
    referenceSymbol := output.referenceSymbol.getD standard.referenceSymbol
    exportFile := output.exportFile.getD standard.exportFile
    exportStyle := output.exportStyle.getD standard.exportStyle
    lineEnding := output.lineEnding.getD standard.lineEnding
    libraryStem := manifest.library.stem.getD standard.libraryStem
    keepRepeated := manifest.input.keepRepeated.getD standard.keepRepeated
    platforms := catalog }

/-- The entries of a catalog that a manifest asks for. -/
def selectFrom (manifest : Manifest) (catalog : Catalog) :
    Except Catalog.UnknownPlatform Catalog :=
  match manifest.targets.platforms with
  | some ids => catalog.select ids
  | none => .ok catalog

/-- The settings of a manifest, once its catalog has been loaded. -/
def settingsWith (manifest : Manifest) (catalog : Catalog) : Except Fault Settings :=
  match manifest.selectFrom catalog with
  | .error unknown => .error (.platform unknown)
  | .ok platforms =>
    let settings := manifest.overlay platforms
    match settings.validate with
    | .error fault => .error (.settings fault)
    | .ok () => .ok settings

/-- The name of a manifest file. -/
def fileName : String := "nativecalls.toml"

variable {m : Type → Type} [Monad m] [Workspace m]

/-- The manifest in a file. -/
def load (path : String) : m (Except Fault Manifest) := do
  match ← Workspace.readText path with
  | .error fault => return .error (.reading path fault)
  | .ok text =>
    match ofToml text with
    | .error fault => return .error (.parsing path fault)
    | .ok manifest => return .ok manifest

/-- The first of some directories that holds a manifest file, with that manifest. -/
def findAmong : List String → m (Except Fault (Option (String × Manifest)))
  | [] => return .ok none
  | directory :: rest => do
    let path := Path.join directory fileName
    if ← Workspace.isFile path then
      match ← load path with
      | .error fault => return .error fault
      | .ok manifest => return .ok (some (directory, manifest))
    else findAmong rest

/-- The manifest nearest to a directory, with the directory that holds it. -/
def find (directory : String) : m (Except Fault (Option (String × Manifest))) :=
  findAmong (Path.ancestors directory)

/-- The catalog that a manifest names, or the one that the library knows of itself. -/
def loadCatalog (manifest : Manifest) (base : String) : m (Except Fault Catalog) := do
  match manifest.targets.catalog with
  | none => return .ok Platform.builtin
  | some path =>
    let path := Path.join base path
    match ← Catalog.load path with
    | .error fault => return .error (.catalog path fault)
    | .ok catalog => return .ok catalog

/-- The settings of a manifest, the paths in which start from `base`. -/
def resolve (manifest : Manifest) (base : String) : m (Except Fault Settings) := do
  match ← manifest.loadCatalog base with
  | .error fault => return .error fault
  | .ok catalog =>
    match manifest.settingsWith catalog with
    | .error fault => return .error fault
    | .ok settings =>
      Workspace.note ⟨.debug, "resolved generator configuration",
        [("platforms", toString settings.platforms.length),
          ("namespace", settings.namespaceName)]⟩
      return .ok settings

end Manifest
end BindingGen
