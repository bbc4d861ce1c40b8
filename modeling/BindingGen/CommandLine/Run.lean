import BindingGen.CommandLine.Help
import BindingGen.Files.Store
import BindingGen.Manifest
import BindingGen.ReportJson

/-!
# Running the command line

A command first finds its settings: those of a manifest that is named, else those of the nearest
manifest, else the standard ones.  What it has to say it prints step by step; a fault is told in
one line of its own, with what was attempted and why that failed.
-/

namespace BindingGen
namespace CommandLine

/-- What a run of the program leaves behind besides files and log events. -/
structure Result where
  exit : Nat
  stdout : String
  stderr : String
  deriving DecidableEq, Repr

/-- Why a command fails. -/
inductive Fault where
  | manifest (fault : Manifest.Fault)
  /-- A manifest that was named cannot be put to use. -/
  | applying (path : String) (fault : Manifest.Fault)
  | generating (input : String) (fault : Generation.Fault)
  | reading (input : String) (fault : Generation.Fault)
  | writing (directory : String) (fault : Generation.Fault)
  | checking (input : String) (fault : Generation.Fault)
  | unknownTarget (id : String)
  | unknownFormat (format : String)
  deriving DecidableEq, Repr

/-- What went wrong, from the attempt to its last cause. -/
def Fault.chain : Fault → List String
  | .manifest fault => fault.chain
  | .applying path fault => s!"applying {path}" :: fault.chain
  | .generating input fault => s!"generating native calls from {input}" :: fault.chain
  | .reading input fault => s!"reading definitions from {input}" :: fault.chain
  | .writing directory fault => s!"writing export list to {directory}" :: fault.chain
  | .checking input fault => s!"checking {input}" :: fault.chain
  | .unknownTarget id =>
    [s!"unknown target: '{id}'. Use 'nativecalls target list' to see available targets."]
  | .unknownFormat format => [s!"unknown format '{format}' (expected 'toml')"]

def Fault.text (fault : Fault) : String :=
  "error: " ++ ": ".intercalate fault.chain ++ "\n"

/-- The result of a command that has printed some texts and then succeeded or failed. -/
def Result.of (printed : List String) : Except Fault Unit → Result
  | .ok () => ⟨0, String.join printed, ""⟩
  | .error fault => ⟨1, String.join printed, fault.text⟩

/-! ## Targets -/

/-- A text filled up with spaces to a width. -/
def padded (width : Nat) (text : String) : String :=
  text ++ String.ofList (List.replicate (width - text.length) ' ')

/-- The line of a platform in the list of targets. -/
def targetLine (s : Settings) (p : Platform) : String :=
  "  " ++ padded 12 p.id ++ " " ++ padded 12 p.constant ++ " " ++
    p.libraryFileName s.libraryStem

/-- The lines that describe a platform. -/
def targetDetails (s : Settings) (p : Platform) : List String :=
  [s!"=== Platform: {p.id} ===",
    s!"  Name:        {p.className}",
    s!"  Family:      {p.family.friendlyName} ({p.family.id})",
    s!"  Arch:        {p.architecture}",
    s!"  Symbol:      {p.constant}",
    s!"  Library:     {p.libraryFileName s.libraryStem}",
    s!"  Output file: {s.bindingFile p}"]

/-! ## Commands -/

variable {m : Type → Type} [Monad m] [Workspace m]

/-- The settings of a manifest that is named. -/
def namedSettings (path : String) : m (Except Fault Settings) := do
  match ← Manifest.load path with
  | .error fault => return .error (.manifest fault)
  | .ok manifest =>
    let base ←
      match Path.parent? path with
      | some parent => pure parent
      | none => Workspace.currentDirectory
    match ← manifest.resolve base with
    | .error fault => return .error (.applying path fault)
    | .ok settings => return .ok settings

/-- The settings of the manifest nearest to a directory, or the standard settings. -/
def nearestSettings (directory : String) : m (Except Fault Settings) := do
  match ← Manifest.find directory with
  | .error fault => return .error (.manifest fault)
  | .ok none => return .ok .standard
  | .ok (some (found, manifest)) =>
    Workspace.note ⟨.debug, s!"using {Manifest.fileName}", [("dir", found)]⟩
    match ← manifest.resolve found with
    | .error fault => return .error (.manifest fault)
    | .ok settings => return .ok settings

/-- The settings of a run. -/
def loadSettings (manifest : Option String) : m (Except Fault Settings) := do
  match manifest with
  | some path => namedSettings path
  | none => nearestSettings (← Workspace.currentDirectory)

def generate (s : Settings) (input directory : String) (json : Bool) :
    m (Except Fault Unit) := do
  match ← Generation.runFile s input directory with
  | .error fault => return .error (.generating input fault)
  | .ok report =>
    if json then
      Workspace.printLine (ReportJson.text report)
    else
      Workspace.printLines (report.files.map WrittenFile.path)
    return .ok ()

def exports (s : Settings) (input directory : String) : m (Except Fault Unit) := do
  match ← Generation.load input s.keepRepeated with
  | .error fault => return .error (.reading input fault)
  | .ok prototypes =>
    match ← Generation.runExports s prototypes directory with
    | .error fault => return .error (.writing directory fault)
    | .ok file =>
      Workspace.printLine file.path
      return .ok ()

def check (s : Settings) (input : String) : m (Except Fault Unit) := do
  match ← Generation.load input s.keepRepeated with
  | .error fault => return .error (.checking input fault)
  | .ok prototypes =>
    Workspace.printLine (s!"{input}: {prototypes.length} definition(s), " ++
      s!"{s.platforms.length} platform(s)")
    return .ok ()

def listTargets (s : Settings) : m (Except Fault Unit) := do
  if s.platforms.isEmpty then
    Workspace.printLine "No platforms configured; only the reference file will be generated."
  else
    Workspace.printLines ["Platforms:", ""]
    Workspace.printLines (s.platforms.map (targetLine s))
    Workspace.printLines ["", "Use 'nativecalls target describe <id>' for details."]
  return .ok ()

/-- Describes the platform with an id. -/
def describe (s : Settings) (id : String) (format : Option String) : m (Except Fault Unit) := do
  match Catalog.find? s.platforms id with
  | none => return .error (.unknownTarget id)
  | some p =>
    match format with
    | some "toml" =>
      Workspace.print (Catalog.toToml [p])
      return .ok ()
    | some other => return .error (.unknownFormat other)
    | none =>
      Workspace.printLines (targetDetails s p)
      return .ok ()

/-- Runs a command with its settings. -/
def execute (s : Settings) : Command → m (Except Fault Unit)
  | .generate input directory json => generate s input directory json
  | .exports input directory => exports s input directory
  | .check input => check s input
  | .listTargets => listTargets s
  | .describeTarget id format => describe s id format

/-- Runs a command. -/
def run (options : Options) (command : Command) : m (Except Fault Unit) := do
  match ← loadSettings options.manifest with
  | .error fault => return .error fault
  | .ok settings => execute settings command

/-- Runs a command in a session and collects what it printed on its way, up to its end or to its
fault. -/
def perform (options : Options) (command : Command) : InStore Result := do
  let before ← get
  let outcome ← run options command
  let after ← get
  return .of (after.printed.drop before.printed.length) outcome

/-! ## The program -/

def version : String := "nativecalls 0.1.0\n"

/-- The least important level that is shown.  Asking for more output on the command line comes
before the environment. -/
def threshold (options : Options) (environment : String → Option String) : Log.Level :=
  match options.verbosity with
  | 0 =>
    match environment "NATIVECALLS_LOG" <|> environment "RUST_LOG" with
    | some text => Log.thresholdOfText text
    | none => .warn
  | 1 => .info
  | _ => .debug

/-- The result of a request that needs no files, or the command to run. -/
def start (arguments : List String) : Except Result (Options × Command) :=
  match parse arguments with
  | none => .error ⟨2, "", "error: invalid arguments\n\nFor more information, try '--help'.\n"⟩
  | some (.help topic) => .error ⟨0, (helpPage topic).text, ""⟩
  | some .version => .error ⟨0, version, ""⟩
  | some (.run options command) => .ok (options, command)

end CommandLine
end BindingGen
