import BindingGen.Digest.Sha256
import BindingGen.Files.Workspace
import BindingGen.Prototype.Listing
import BindingGen.Source.Emission

/-!
# Generation runs

A run writes the binding file of every platform, then the reference file, then the export list,
into one directory that is created if it is missing.  Files that are there are replaced.  The
first failure ends the run and leaves the files written before it.
-/

namespace BindingGen

/-- What a generated file holds. -/
inductive FileRole where
  | binding (platform : String)
  | reference
  | exportList
  deriving DecidableEq, Repr

def FileRole.text : FileRole → String
  | binding _ => "binding"
  | reference => "reference"
  | exportList => "export-list"

/-- A file that a run has written. -/
structure WrittenFile where
  path : String
  role : FileRole
  /-- The digest of the bytes that were written. -/
  sha256 : String
  deriving DecidableEq, Repr

/-- The outcome of a run: the number of prototypes and the files in the order of writing. -/
structure Report where
  definitions : Nat
  files : List WrittenFile
  deriving DecidableEq, Repr

namespace Generation

/-- Why a run ends early. -/
inductive Fault where
  | listing (fault : Prototype.ListingFault)
  | source (fault : SourceFile.Fault)
  | files (path : String) (fault : FileFault)
  | settings (fault : Settings.Fault)
  deriving DecidableEq, Repr

def Fault.message : Fault → String
  | .listing fault => fault.message
  | .source fault => fault.message
  | .files path fault => s!"I/O error on {path}: {fault.message}"
  | .settings fault => s!"invalid configuration: {fault.message}"

/-- The message of a fault and of its cause, which is told again. -/
def Fault.chain (fault : Fault) : List String :=
  match fault with
  | .listing (.malformed _ _ cause) => [fault.message, cause.message]
  | .listing (.repeated _) => [fault.message]
  | .source inner => [fault.message, inner.cause.message]
  | .files _ cause => [fault.message, cause.message]
  | .settings cause => [fault.message, cause.message]

variable {m : Type → Type} [Monad m] [Workspace m]

/-- Notes every name that was declared before. -/
def noteRepetitions : List Prototype.Repetition → m Unit
  | [] => return ()
  | r :: rest => do
    Workspace.note ⟨.warn, "duplicate definition kept",
      [("name", Text.literal r.name), ("line", toString r.line),
        ("first_line", toString r.firstLine)]⟩
    noteRepetitions rest

/-- The prototypes of a listing in a file. -/
def load (path : String) (keepRepeated : Bool) : m (Except Fault (List Prototype)) := do
  match ← Workspace.readText path with
  | .error fault => return .error (.files path fault)
  | .ok text =>
    let listing := Prototype.Listing.read keepRepeated text
    noteRepetitions (Prototype.Listing.repetitions listing.entries)
    match listing.prototypes with
    | .error fault => return .error (.listing fault)
    | .ok prototypes =>
      if prototypes.isEmpty then
        Workspace.note ⟨.warn, "prototypes file contains no definitions", [("path", path)]⟩
      return .ok prototypes

/-- Writes a file into a directory. -/
def writeSource (directory : String) (role : FileRole) (file : SourceFile) :
    m (Except Fault WrittenFile) := do
  let path := Path.join directory file.name
  let bytes := file.contents.toUTF8
  match ← Workspace.writeBytes path bytes with
  | .error fault => return .error (.files path fault)
  | .ok () =>
    Workspace.note ⟨.debug, "wrote generated file",
      [("path", path), ("bytes", toString bytes.size)]⟩
    return .ok ⟨path, role, Sha256.hex bytes⟩

/-- A file of a run with its role, or the reason for which its text was not made. -/
abbrev Planned := FileRole × Except SourceFile.Fault SourceFile

/-- The files of a run in the order of writing. -/
def plan (s : Settings) (prototypes : List Prototype) : List Planned :=
  s.platforms.map (fun p => (FileRole.binding p.id, SourceFile.binding s p prototypes)) ++
    [(.reference, SourceFile.reference s prototypes),
      (.exportList, SourceFile.exportList s prototypes)]

/-- Writes files one after another up to the first that fails. -/
def writeAll (directory : String) : List Planned → m (Except Fault (List WrittenFile))
  | [] => return .ok []
  | (_, .error fault) :: _ => return .error (.source fault)
  | (role, .ok file) :: rest => do
    match ← writeSource directory role file with
    | .error fault => return .error fault
    | .ok written =>
      match ← writeAll directory rest with
      | .error fault => return .error fault
      | .ok more => return .ok (written :: more)

/-- Checks the settings and prepares the directory for the files. -/
def prepare (s : Settings) (directory : String) : m (Except Fault Unit) := do
  match s.validate with
  | .error fault => return .error (.settings fault)
  | .ok () =>
    match ← Workspace.createDirectories directory with
    | .error fault => return .error (.files directory fault)
    | .ok () => return .ok ()

/-- Writes all files of a run. -/
def run (s : Settings) (prototypes : List Prototype) (directory : String) :
    m (Except Fault Report) := do
  match ← prepare s directory with
  | .error fault => return .error fault
  | .ok () =>
    match ← writeAll directory (plan s prototypes) with
    | .error fault => return .error fault
    | .ok files =>
      Workspace.note ⟨.info, "generation complete",
        [("out_dir", directory), ("definitions", toString prototypes.length),
          ("files", toString files.length)]⟩
      return .ok ⟨prototypes.length, files⟩

/-- Writes all files of a run for the listing in a file. -/
def runFile (s : Settings) (input directory : String) : m (Except Fault Report) := do
  match ← load input s.keepRepeated with
  | .error fault => return .error fault
  | .ok prototypes => run s prototypes directory

/-- Writes the export list alone. -/
def runExports (s : Settings) (prototypes : List Prototype) (directory : String) :
    m (Except Fault WrittenFile) := do
  match ← prepare s directory with
  | .error fault => return .error fault
  | .ok () =>
    match SourceFile.exportList s prototypes with
    | .error fault => return .error (.source fault)
    | .ok file => writeSource directory .exportList file

end Generation
end BindingGen
