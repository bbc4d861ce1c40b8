import BindingGen.Files.Workspace

/-!
# A file system as a value

A store maps places to directories and files.  A place is the list of names that lead to it from
the root, which is always a directory.  Paths are followed name by name: every name but the last
has to lead to a directory that is there.
-/

namespace BindingGen

inductive Node where
  | directory
  | file (contents : ByteArray)

/-- The names that lead from the root to a file or directory. -/
abbrev Place := List String

structure Store where
  nodes : List (Place × Node)

namespace Store

/-- The store that holds the root alone. -/
def empty : Store := ⟨[]⟩

def find? (store : Store) (place : Place) : Option Node :=
  if place = [] then some .directory
  else (store.nodes.find? fun entry => entry.1 == place).map Prod.snd

/-- Puts a node at a place, replacing the one that is there. -/
def insert (store : Store) (place : Place) (node : Node) : Store :=
  if store.nodes.any fun entry => entry.1 == place then
    ⟨store.nodes.map fun entry => if entry.1 == place then (place, node) else entry⟩
  else ⟨store.nodes ++ [(place, node)]⟩

/-- The longest name of a file, in bytes. -/
def nameLimit : Nat := 255

/-- The longest path that can be followed, in bytes. -/
def pathLimit : Nat := 4095

/-- Follows names from a place.  The place that is reached need not hold anything. -/
def follow (store : Store) : Place → List String → Except FileFault Place
  | place, [] => .ok place
  | place, name :: rest =>
    match store.find? place with
    | none => .error .notFound
    | some (.file _) => .error .notADirectory
    | some .directory =>
      if name = "." then follow store place rest
      else if name = ".." then follow store place.dropLast rest
      else if nameLimit < name.utf8ByteSize then .error .nameTooLong
      else follow store (place ++ [name]) rest

/-- The place that a path starts from, unless no path has its form. -/
def start (current : Place) (path : String) : Except FileFault Place :=
  if path.toList.contains '\x00' then .error .zeroInName
  else if path.isEmpty then .error .notFound
  else if pathLimit < path.utf8ByteSize then .error .nameTooLong
  else if Path.isAbsolute path then .ok []
  else .ok current

/-- The place that a path leads to.  A slash at its end asks for a directory. -/
def locate (store : Store) (current : Place) (path : String) : Except FileFault Place := do
  let place ← start current path
  store.follow place (Path.names path ++ if Path.endsInSlash path then ["."] else [])

/-- What a path leads to. -/
def look (store : Store) (current : Place) (path : String) : Except FileFault Node := do
  match store.find? (← store.locate current path) with
  | some node => .ok node
  | none => .error .notFound

def read (store : Store) (current : Place) (path : String) : Except FileFault ByteArray := do
  match ← store.look current path with
  | .directory => .error .isADirectory
  | .file contents => .ok contents

/-- The place of a file to be written.  A slash at the end of the path makes it a directory. -/
def locateFile (store : Store) (current : Place) (path : String) : Except FileFault Place := do
  let place ← start current path
  let names := Path.names path
  if Path.endsInSlash path then
    let _ ← store.follow place (names.dropLast ++ ["."])
    .error .isADirectory
  else
    let place ← store.follow place names
    match store.find? place with
    | some .directory => .error .isADirectory
    | _ => .ok place

def write (store : Store) (current : Place) (path : String) (contents : ByteArray) :
    Except FileFault Store := do
  return store.insert (← store.locateFile current path) (.file contents)

/-- The place of a directory to be created. -/
def locateNew (store : Store) (current : Place) (path : String) : Except FileFault Place := do
  let place ← start current path
  let place ← store.follow place (Path.names path)
  match store.find? place with
  | some _ => .error .alreadyExists
  | none => .ok place

def makeDirectory (store : Store) (current : Place) (path : String) : Except FileFault Store := do
  return store.insert (← store.locateNew current path) .directory

/-- The places in a store. -/
def places (store : Store) : List Place :=
  store.nodes.map Prod.fst

end Store

/-- What a program lets its user see. -/
inductive Message where
  | noted (event : Log.Event)
  | printed (text : String)

namespace Message

/-- Whether it is a log event that is shown up to a threshold. -/
def passes (threshold : Log.Level) : Message → Bool
  | noted event => event.passes threshold
  | printed _ => false

/-- What is shown of it. -/
def line : Message → String
  | noted event => event.line
  | printed text => text

/-- The text on the standard output stream. -/
def text? : Message → Option String
  | noted _ => none
  | printed text => some text

end Message

/-- A store together with the place that relative paths start from and everything that was noted
or printed so far, the first of it first. -/
structure Session where
  store : Store
  current : Place
  events : List Message

namespace Session

/-- A session after one more message. -/
def tell (session : Session) (message : Message) : Session :=
  { session with events := session.events ++ [message] }

/-- The texts that were printed, the first of them first. -/
def printed (session : Session) : List String :=
  session.events.filterMap Message.text?

variable (session : Session)

@[simp]
theorem tell_store (message : Message) : (session.tell message).store = session.store :=
  rfl

@[simp]
theorem tell_current (message : Message) : (session.tell message).current = session.current :=
  rfl

@[simp]
theorem printed_tell_noted (event : Log.Event) :
    (session.tell (.noted event)).printed = session.printed := by
  simp [printed, tell, Message.text?]

@[simp]
theorem printed_tell_printed (text : String) :
    (session.tell (.printed text)).printed = session.printed ++ [text] := by
  simp [printed, tell, Message.text?]

end Session

/-- Programs that run on a store. -/
abbrev InStore := StateM Session

namespace InStore

/-- Asks a question about the store. -/
def ask {α : Type} (question : Store → Place → α) : InStore α :=
  fun session => (question session.store session.current, session)

/-- Changes the store, or leaves it as it is when that fails. -/
def change (action : Store → Place → Except FileFault Store) : InStore (Except FileFault Unit) :=
  fun session =>
    match action session.store session.current with
    | .error fault => (.error fault, session)
    | .ok store => (.ok (), { session with store })

instance : Workspace InStore where
  readBytes path := ask fun store current => store.read current path
  writeBytes path contents := change fun store current => store.write current path contents
  makeDirectory path := change fun store current => store.makeDirectory current path
  isFile path := ask fun store current =>
    match store.look current path with
    | .ok (.file _) => true
    | _ => false
  isDirectory path := ask fun store current =>
    match store.look current path with
    | .ok .directory => true
    | _ => false
  currentDirectory := ask fun _ current => "/" ++ "/".intercalate current
  note event := fun session => ((), session.tell (.noted event))
  print text := fun session => ((), session.tell (.printed text))

end InStore
end BindingGen
