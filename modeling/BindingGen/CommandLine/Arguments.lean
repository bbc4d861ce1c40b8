import BindingGen.Text.Blank

/-!
# Arguments of the command line

A command line is read level by level: the program, then a command, then possibly an action of
that command.  Each level has options, values by position, or names of the next level.  Two
options belong to every level; where several levels give one, the innermost level decides.
-/

namespace BindingGen
namespace CommandLine

inductive Command where
  | generate (input directory : String) (json : Bool)
  | exports (input directory : String)
  | check (input : String)
  | listTargets
  | describeTarget (id : String) (format : Option String)
  deriving DecidableEq, Repr

/-- The options of every level. -/
structure Options where
  /-- How often more log output was asked for. -/
  verbosity : Nat
  /-- The path of a manifest. -/
  manifest : Option String
  deriving DecidableEq, Repr

/-- The options of a level together with those of the level inside it. -/
def Options.within (outer inner : Options) : Options :=
  ⟨if inner.verbosity = 0 then outer.verbosity else inner.verbosity,
    inner.manifest <|> outer.manifest⟩

/-- A level for which help can be asked. -/
inductive Topic where
  | program
  | generate
  | exports
  | check
  | target
  | listTargets
  | describeTarget
  deriving DecidableEq, Repr

/-- What a command line asks for. -/
inductive Request where
  | run (options : Options) (command : Command)
  | help (topic : Topic)
  | version
  deriving DecidableEq, Repr

/-- The kind of a value; a path is not empty. -/
inductive ValueKind where
  | text
  | path
  deriving DecidableEq, Repr

/-- Whether an argument is a value of a kind. -/
def ValueKind.accepts : ValueKind → String → Bool
  | text, _ => true
  | path, value => !value.isEmpty

/-- What a level accepts besides the options of every level. -/
structure Form where
  /-- Whether the version of the program can be asked for. -/
  version : Bool
  /-- The options without a value. -/
  flags : List String
  /-- The options with a value. -/
  valued : List String
  /-- The values by position. -/
  positional : List ValueKind
  /-- The names of levels inside this one. -/
  inner : List String
  deriving Repr

/-- What has been read of a level. -/
structure Read where
  options : Options
  flags : List String
  values : List (String × String)
  positional : List String
  /-- The level inside this one, with the arguments that remain for it. -/
  inner : Option (String × List String)
  deriving DecidableEq, Repr

/-- The end of reading a level. -/
inductive Outcome where
  | read (result : Read)
  | help
  | version
  | refused
  deriving DecidableEq, Repr

def manifestOption : String := "--config"

/-- Takes the value of an option, which may be given once on a level. -/
def Read.addValue (r : Read) (name value : String) : Option Read :=
  if name == manifestOption then
    if r.options.manifest.isSome || !ValueKind.path.accepts value then none
    else some { r with options := { r.options with manifest := some value } }
  else if r.values.any fun given => given.1 == name then none
  else some { r with values := r.values ++ [(name, value)] }

/-- Takes an option without a value. -/
def Read.addFlag (r : Read) (name : String) : Option Read :=
  if name == "--verbose" then
    some { r with options := { r.options with verbosity := r.options.verbosity + 1 } }
  else if r.flags.contains name then none
  else some { r with flags := r.flags ++ [name] }

/-- Takes the value for the first position that has none. -/
def Read.addPositional (r : Read) (form : Form) (value : String) : Option Read :=
  match form.positional[r.positional.length]? with
  | none => none
  | some kind =>
    if kind.accepts value then some { r with positional := r.positional ++ [value] } else none

/-- Takes values by position only. -/
def readPositional (form : Form) (r : Read) : List String → Outcome
  | [] => .read r
  | value :: rest =>
    match r.addPositional form value with
    | some r => readPositional form r rest
    | none => .refused

/-- Takes the letters after a single dash. -/
def readLetters (form : Form) (r : Read) : List Char → Outcome
  | [] => .read r
  | 'h' :: _ => .help
  | 'V' :: _ => if form.version then .version else .refused
  | 'v' :: letters =>
    match r.addFlag "--verbose" with
    | some r => readLetters form r letters
    | none => .refused
  | _ :: _ => .refused

/-- The two sides of the first equals sign, if there is one. -/
def splitAtEquals (argument : String) : Option (String × String) :=
  match argument.toList.dropWhile (· != '=') with
  | [] => none
  | _ :: value =>
    some (String.ofList (argument.toList.takeWhile (· != '=')), String.ofList value)

def Form.takesValue (form : Form) (name : String) : Bool :=
  name == manifestOption || form.valued.contains name

def Form.isFlag (form : Form) (name : String) : Bool :=
  name == "--verbose" || form.flags.contains name

/-- Whether an argument is the value of the option before it: it does not look like an
option. -/
def isValue (argument : String) : Bool :=
  argument.toList.head? != some '-' || argument == "-"

/-- Reads the arguments of a level. -/
def readLevel (form : Form) (r : Read) : List String → Outcome
  | [] => .read r
  | argument :: rest =>
    if form.inner.contains argument then .read { r with inner := some (argument, rest) }
    else if argument == "--" then readPositional form r rest
    else
      match argument.toList with
      | '-' :: '-' :: _ =>
        match splitAtEquals argument with
        | some (name, value) =>
          if form.takesValue name then
            match r.addValue name value with
            | some r => readLevel form r rest
            | none => .refused
          else .refused
        | none =>
          if argument == "--help" then .help
          else if argument == "--version" && form.version then .version
          else if form.takesValue argument then
            match rest with
            | value :: rest =>
              if isValue value then
                match r.addValue argument value with
                | some r => readLevel form r rest
                | none => .refused
              else .refused
            | [] => .refused
          else if form.isFlag argument then
            match r.addFlag argument with
            | some r => readLevel form r rest
            | none => .refused
          else .refused
      | '-' :: letter :: letters =>
        match readLetters form r (letter :: letters) with
        | .read r => readLevel form r rest
        | outcome => outcome
      | _ =>
        match r.addPositional form argument with
        | some r => readLevel form r rest
        | none => .refused

/-- A level of which nothing has been read. -/
def Read.empty : Read := ⟨⟨0, none⟩, [], [], [], none⟩

/-- Reads a level and goes on with what was read, unless help or the version is asked for. -/
def level (topic : Topic) (form : Form) (arguments : List String) (next : Read → Option Request) :
    Option Request :=
  match readLevel form .empty arguments with
  | .read r => next r
  | .help => some (.help topic)
  | .version => some .version
  | .refused => none

/-- The topic that the names of nested levels lead to. -/
def topicOf : List String → Option Topic
  | [] => some .program
  | ["generate"] => some .generate
  | ["exports"] => some .exports
  | ["check"] => some .check
  | ["target"] => some .target
  | ["target", "list"] => some .listTargets
  | ["target", "describe"] => some .describeTarget
  | ["help"] => some .program
  | ["target", "help"] => some .target
  | _ => none

/-- The arguments of an action on targets. -/
def readTarget (outer : Options) (arguments : List String) : Option Request :=
  level .target ⟨false, [], [], [], ["list", "describe", "help"]⟩ arguments fun r =>
    let options := outer.within r.options
    match r.inner with
    | some ("list", rest) =>
      level .listTargets ⟨false, [], [], [], []⟩ rest fun r =>
        some (.run (options.within r.options) .listTargets)
    | some ("describe", rest) =>
      level .describeTarget ⟨false, [], ["--format"], [.text], []⟩ rest fun r =>
        match r.positional with
        | [id] =>
          some (.run (options.within r.options)
            (.describeTarget id ((r.values.find? fun v => v.1 == "--format").map Prod.snd)))
        | _ => none
    | some ("help", rest) => (topicOf ("target" :: rest)).map .help
    | _ => none

/-- What a command line asks for, if it is well formed. -/
def parse (arguments : List String) : Option Request :=
  level .program ⟨true, [], [], [], ["generate", "exports", "check", "target", "help"]⟩
    arguments fun r =>
      let outer := r.options
      match r.inner with
      | some ("generate", rest) =>
        level .generate ⟨false, ["--json"], [], [.path, .path], []⟩ rest fun r =>
          match r.positional with
          | [input, directory] =>
            some (.run (outer.within r.options)
              (.generate input directory (r.flags.contains "--json")))
          | _ => none
      | some ("exports", rest) =>
        level .exports ⟨false, [], [], [.path, .path], []⟩ rest fun r =>
          match r.positional with
          | [input, directory] =>
            some (.run (outer.within r.options) (.exports input directory))
          | _ => none
      | some ("check", rest) =>
        level .check ⟨false, [], [], [.path], []⟩ rest fun r =>
          match r.positional with
          | [input] => some (.run (outer.within r.options) (.check input))
          | _ => none
      | some ("target", rest) => readTarget outer rest
      | some ("help", rest) => (topicOf rest).map .help
      | _ => none

end CommandLine
end BindingGen
