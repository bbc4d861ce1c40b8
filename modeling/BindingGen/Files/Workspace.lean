import BindingGen.Files.Fault
import BindingGen.Files.Log
import BindingGen.Files.Path

/-!
# What a program may do to its surroundings

The operations on files that the library needs, and those by which a program lets its user see
something, over any monad that provides them.  Everything that reads, writes or prints is written
against this class, so that it can be run on a real machine as well as on a value.
-/

namespace BindingGen

class Workspace (m : Type → Type) where
  readBytes : (path : String) → m (Except FileFault ByteArray)
  /-- Replaces a whole file or creates it. -/
  writeBytes : (path : String) → ByteArray → m (Except FileFault Unit)
  /-- Creates one directory in a directory that is there. -/
  makeDirectory : (path : String) → m (Except FileFault Unit)
  isFile : (path : String) → m Bool
  isDirectory : (path : String) → m Bool
  /-- The absolute path that relative paths start from. -/
  currentDirectory : m String
  /-- Notes an event. -/
  note : Log.Event → m Unit
  /-- Prints text to the standard output stream. -/
  print : (text : String) → m Unit

namespace Workspace

variable {m : Type → Type} [Monad m] [Workspace m]

def printLine (line : String) : m Unit :=
  print (line ++ "\n")

/-- Prints lines one after another. -/
def printLines : List String → m Unit
  | [] => return ()
  | line :: rest => do
    printLine line
    printLines rest

/-- The text of a file. -/
def readText (path : String) : m (Except FileFault String) := do
  match ← readBytes path with
  | .error fault => return .error fault
  | .ok bytes =>
    match String.fromUTF8? bytes with
    | some text => return .ok text
    | none => return .error .invalidText

/-- Whether a path leads to anything. -/
def leadsSomewhere (path : String) : m Bool := do
  if ← isFile path then return true
  isDirectory path

/-- Creates a directory that may be there already. -/
def ensureDirectory (path : String) : m (Except FileFault Unit) := do
  match ← makeDirectory path with
  | .error .alreadyExists =>
    return if ← isDirectory path then .ok () else .error .alreadyExists
  | result => return result

/-- Creates the first of some nested directories, which are given from the innermost to the
outermost; a directory that is missing is created after those around it. -/
def createNested : List String → m (Except FileFault Unit)
  | [] => return .ok ()
  | path :: outer => do
    match ← ensureDirectory path with
    | .error .notFound =>
      match ← createNested outer with
      | .error fault => return .error fault
      | .ok () => ensureDirectory path
    | result => return result

/-- Creates a directory together with the directories around it. -/
def createDirectories (path : String) : m (Except FileFault Unit) :=
  createNested ((Path.ancestors path).filter fun p => (Path.parent? p).isSome)

end Workspace
end BindingGen
