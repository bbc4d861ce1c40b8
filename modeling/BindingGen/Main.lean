import BindingGen.CommandLine.Run

/-!
# The program

Runs the command line on the files of the machine.  Log lines go to the standard error stream.
-/

namespace BindingGen

/-- Programs that run on the files of the machine and show events up to a threshold. -/
abbrev OnMachine := ReaderT Log.Level IO

namespace OnMachine

def faultOf (error : IO.Error) : FileFault :=
  match error with
  | .noFileOrDirectory .. => .notFound
  | .alreadyExists .. => .alreadyExists
  | .inappropriateType _ code _ => if code == 21 then .isADirectory else .notADirectory
  | error => .other (toString error)

/-- Runs an action, giving the reason for which it failed. -/
def attempt {α : Type} (action : IO α) : OnMachine (Except FileFault α) :=
  fun _ => do
    try
      return .ok (← action)
    catch error =>
      return .error (faultOf error)

/-- Whether a path leads to something of which `test` holds. -/
def leadsTo (path : String) (test : IO.FS.FileType → Bool) : OnMachine Bool :=
  fun _ => do
    try
      return test (← (← IO.FS.realPath path).metadata).type
    catch _ =>
      return false

instance : Workspace OnMachine where
  readBytes path := attempt (IO.FS.readBinFile path)
  writeBytes path contents := attempt (IO.FS.writeBinFile path contents)
  makeDirectory path := attempt (IO.FS.createDir path)
  isFile path := leadsTo path (· == .file)
  isDirectory path := leadsTo path (· == .dir)
  currentDirectory := fun _ => return toString (← IO.currentDir)
  note event := fun threshold => do
    if event.passes threshold then
      IO.eprintln event.line
  print text := fun _ => IO.print text

end OnMachine
end BindingGen

open BindingGen in
def main (arguments : List String) : IO UInt32 := do
  let result ←
    match CommandLine.start arguments with
    | .error result => pure result
    | .ok (options, command) => do
      let program ← IO.getEnv "NATIVECALLS_LOG"
      let general ← IO.getEnv "RUST_LOG"
      let environment := fun name =>
        if name == "NATIVECALLS_LOG" then program else if name == "RUST_LOG" then general else none
      let outcome ← (CommandLine.run options command : OnMachine _).run
        (CommandLine.threshold options environment)
      -- What the command has printed is on the stream already.
      pure (CommandLine.Result.of [] outcome)
  IO.print result.stdout
  IO.eprint result.stderr
  return UInt32.ofNat result.exit
