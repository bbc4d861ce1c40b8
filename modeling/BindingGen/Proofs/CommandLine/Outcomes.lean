import BindingGen.Proofs.CommandLine.LoadedSettings
import BindingGen.Proofs.CommandLine.Kept
import BindingGen.Proofs.Generation.Faults
import BindingGen.Proofs.Generation.Survival

/-!
# How commands end

Every command first finds its settings, and those that need a listing load it next.  Neither
changes a file or prints anything, so the commands that only read never change a file, and a
command prints only once nothing is left that could fail.  A command that writes goes through the
same steps as a check of its listing: where the check fails it fails before it writes anything,
and where the check succeeds only a path that cannot be created or written is left to fail.
-/

namespace BindingGen
namespace CommandLine

open InStore

/-! ## Printing -/

/-- A program that has printed nothing by the time it fails. -/
def FailsSilently (program : InStore (Except Fault Unit)) : Prop :=
  ∀ session fault, (program.run session).1 = .error fault →
    (program.run session).2.printed = session.printed

section Silence

variable {program : InStore (Except Fault Unit)}

theorem failsSilently_of_keeps (keeps : Keeps Session.printed program) : FailsSilently program :=
  fun session _ _ => keeps session

theorem failsSilently_of_succeeds (succeeds : ∀ session, (program.run session).1 = .ok ()) :
    FailsSilently program := by
  intro session fault failed
  rw [succeeds session] at failed
  cases failed

/-- What fails silently may follow on what prints nothing. -/
theorem failsSilently_bind {α : Type} {first : InStore α}
    {next : α → InStore (Except Fault Unit)} (keeps : Keeps Session.printed first)
    (continues : ∀ value, FailsSilently (next value)) : FailsSilently (first >>= next) := by
  intro session fault failed
  rw [run_bind] at failed ⊢
  rw [continues _ _ fault failed, keeps]

end Silence

/-- Printing comes behind everything that can fail in the run. -/
theorem failsSilently_generate (s : Settings) (input directory : String) (json : Bool) :
    FailsSilently (generate s input directory json) := by
  unfold generate
  refine failsSilently_bind (Generation.keeps_runFile _ s input directory) fun result => ?_
  cases result with
  | error fault => exact failsSilently_of_keeps (keeps_pure _)
  | ok report => exact failsSilently_of_succeeds fun session => by cases json <;> rfl

theorem failsSilently_exports (s : Settings) (input directory : String) :
    FailsSilently (exports s input directory) := by
  unfold exports
  refine failsSilently_bind (Generation.keeps_load _ input s.keepRepeated) fun listing => ?_
  cases listing with
  | error fault => exact failsSilently_of_keeps (keeps_pure _)
  | ok prototypes =>
      refine failsSilently_bind (Generation.keeps_runExports _ s prototypes directory)
        fun result => ?_
      cases result with
      | error fault => exact failsSilently_of_keeps (keeps_pure _)
      | ok file => exact failsSilently_of_succeeds fun session => rfl

theorem failsSilently_check (s : Settings) (input : String) : FailsSilently (check s input) := by
  unfold check
  refine failsSilently_bind (Generation.keeps_load _ input s.keepRepeated) fun listing => ?_
  cases listing with
  | error fault => exact failsSilently_of_keeps (keeps_pure _)
  | ok prototypes => exact failsSilently_of_succeeds fun session => rfl

/-- Targets can always be listed. -/
theorem failsSilently_listTargets (s : Settings) : FailsSilently (listTargets s) := by
  refine failsSilently_of_succeeds fun session => ?_
  unfold listTargets
  split <;> rfl

/-- An id or a format that is unknown is found out before anything is printed. -/
theorem failsSilently_describe (s : Settings) (id : String) (format : Option String) :
    FailsSilently (describe s id format) := by
  unfold describe
  split
  · exact failsSilently_of_keeps (keeps_pure _)
  · split
    · exact failsSilently_of_succeeds fun session => rfl
    · exact failsSilently_of_keeps (keeps_pure _)
    · exact failsSilently_of_succeeds fun session => rfl

theorem failsSilently_execute (s : Settings) (command : Command) :
    FailsSilently (execute s command) := by
  cases command with
  | generate input directory json => exact failsSilently_generate s input directory json
  | exports input directory => exact failsSilently_exports s input directory
  | check input => exact failsSilently_check s input
  | listTargets => exact failsSilently_listTargets s
  | describeTarget id format => exact failsSilently_describe s id format

theorem failsSilently_run (options : Options) (command : Command) :
    FailsSilently (run options command) := by
  unfold run
  refine failsSilently_bind (keeps_loadSettings _ options.manifest) fun found => ?_
  cases found with
  | error fault => exact failsSilently_of_keeps (keeps_pure _)
  | ok s => exact failsSilently_execute s command

/-! ## Results -/

variable {session loaded read : Session} {options : Options} {s : Settings}

theorem run_perform (options : Options) (command : Command) (session : Session) :
    (perform options command).run session =
      (Result.of (((run options command : InStore _).run session).2.printed.drop
          session.printed.length) ((run options command : InStore _).run session).1,
        ((run options command : InStore _).run session).2) :=
  rfl

theorem exists_error_of_exit {printed : List String} {outcome : Except Fault Unit}
    (failed : (Result.of printed outcome).exit ≠ 0) : ∃ fault, outcome = .error fault := by
  cases outcome with
  | error fault => exact ⟨fault, rfl⟩
  | ok => exact absurd rfl failed

/-- A command that fails has only its fault to show for itself. -/
theorem perform_of_failed {command : Command}
    (failed : ((perform options command).run session).1.exit ≠ 0) :
    ∃ fault, ((run options command : InStore _).run session).1 = .error fault ∧
      ((perform options command).run session).1 = Result.of [] (.error fault) ∧
      ((perform options command).run session).2.printed = session.printed := by
  rw [run_perform] at failed ⊢
  obtain ⟨fault, ended⟩ := exists_error_of_exit failed
  have silent := failsSilently_run options command session fault ended
  refine ⟨fault, ended, ?_, silent⟩
  rw [silent, List.drop_length, ended]

/-! ## The steps of a command -/

theorem run_run_of_error {fault : Fault}
    (failed : (loadSettings options.manifest : InStore _).run session = (.error fault, loaded))
    (command : Command) :
    (run options command : InStore _).run session = (.error fault, loaded) := by
  simp [run, failed]

theorem run_run_of_ok
    (found : (loadSettings options.manifest : InStore _).run session = (.ok s, loaded))
    (command : Command) :
    (run options command : InStore _).run session = (execute s command : InStore _).run loaded := by
  simp [run, found]

/-- Once its settings are found, a command has printed what it prints with them. -/
theorem run_perform_of_ok
    (found : (loadSettings options.manifest : InStore _).run session = (.ok s, loaded))
    {command : Command} {outcome : Except Fault Unit} {final : Session} {printed : List String}
    (ended : (execute s command : InStore _).run loaded = (outcome, final))
    (told : final.printed = loaded.printed ++ printed) :
    (perform options command).run session = (Result.of printed outcome, final) := by
  have silent := keeps_loadSettings Session.printed options.manifest session
  rw [found] at silent
  rw [run_perform, run_run_of_ok found, ended, told, ← silent, List.drop_left]

/-! ## Commands that only read -/

/-- The commands that are not asked to write files. -/
def Command.OnlyReads : Command → Prop
  | .generate .. | .exports .. => False
  | .check .. | .listTargets | .describeTarget .. => True

theorem keeps_store_check (s : Settings) (input : String) :
    Keeps Session.store (check s input : InStore _) := by
  unfold check
  refine (Generation.keeps_load _ input s.keepRepeated).bind fun parsed => ?_
  cases parsed with
  | error fault => exact keeps_pure _
  | ok prototypes => exact (keeps_store_printLine _).bind fun _ => keeps_pure _

theorem keeps_store_listTargets (s : Settings) :
    Keeps Session.store (listTargets s : InStore _) := by
  unfold listTargets
  split
  · exact (keeps_store_printLine _).bind fun _ => keeps_pure _
  · refine (keeps_store_printLines _).bind fun _ => ?_
    refine (keeps_store_printLines _).bind fun _ => ?_
    exact (keeps_store_printLines _).bind fun _ => keeps_pure _

theorem keeps_store_describe (s : Settings) (id : String) (format : Option String) :
    Keeps Session.store (describe s id format : InStore _) := by
  unfold describe
  split
  · exact keeps_pure _
  · split
    · exact fun _ => rfl
    · exact keeps_pure _
    · exact (keeps_store_printLines _).bind fun _ => keeps_pure _

theorem keeps_store_run (options : Options) {command : Command}
    (onlyReads : command.OnlyReads) : Keeps Session.store (run options command : InStore _) := by
  unfold run
  refine (keeps_loadSettings _ options.manifest).bind fun found => ?_
  cases found with
  | error fault => exact keeps_pure _
  | ok s =>
      cases command with
      | generate => exact onlyReads.elim
      | exports => exact onlyReads.elim
      | check input => exact keeps_store_check s input
      | listTargets => exact keeps_store_listTargets s
      | describeTarget id format => exact keeps_store_describe s id format

/-! ## Commands that write -/

/-- The commands that write files for a listing into a directory, with the names of these files
and what the command tells of a fault of the run. -/
inductive WritesFiles (input directory : String) :
    Command → (Settings → List String) → (Generation.Fault → Fault) → Prop
  | generate (json : Bool) :
      WritesFiles input directory (.generate input directory json) Settings.outputNames
        (.generating input)
  | exports :
      WritesFiles input directory (.exports input directory) (fun s => [s.exportFile])
        (.writing directory)

variable {input directory : String} {command : Command} {names : Settings → List String}
  {told : Generation.Fault → Fault}

theorem run_check_of_load_error {fault : Generation.Fault}
    (failed : (Generation.load input s.keepRepeated : InStore _).run loaded =
      (.error fault, read)) :
    (check s input : InStore _).run loaded = (.error (.checking input fault), read) := by
  simp [check, failed]

theorem run_check_of_load_ok {prototypes : List Prototype}
    (parsed : (Generation.load input s.keepRepeated : InStore _).run loaded =
      (.ok prototypes, read)) : ((check s input : InStore _).run loaded).1 = .ok () := by
  simp [check, parsed]

/-- A command that writes files ends with the session that loading its listing has left when that
fails. -/
theorem WritesFiles.execute_of_load_error (writes : WritesFiles input directory command names told)
    {fault : Generation.Fault}
    (failed : (Generation.load input s.keepRepeated : InStore _).run loaded =
      (.error fault, read)) :
    ∃ reason, (execute s command : InStore _).run loaded = (.error reason, read) := by
  cases writes with
  | generate json =>
      refine ⟨.generating input fault, ?_⟩
      simp [execute, CommandLine.generate, Generation.runFile_of_load_error failed]
  | exports =>
      refine ⟨.reading input fault, ?_⟩
      simp [execute, CommandLine.exports, failed]

/-- Once the listing is loaded, only the directory or one of the files can be a reason for
failing. -/
theorem WritesFiles.execute_of_load_ok (writes : WritesFiles input directory command names told)
    (accepted : s.validate = .ok ()) {prototypes : List Prototype}
    (parsed : (Generation.load input s.keepRepeated : InStore _).run loaded =
      (.ok prototypes, read)) {fault : Fault}
    (failed : ((execute s command : InStore _).run loaded).1 = .error fault) :
    ∃ path ∈ directory :: (names s).map (Path.join directory), ∃ cause,
      fault = told (.files path cause) := by
  cases writes with
  | generate json =>
      obtain ⟨done, result, outcome, reported⟩ :=
        Generation.outcome_run accepted prototypes directory read
      unfold execute CommandLine.generate at failed
      rw [run_bind, Generation.runFile_of_load_ok parsed, reported] at failed
      cases result with
      | ok written => cases json <;> cases failed
      | error reason =>
          cases failed
          obtain ⟨path, member, cause, rfl⟩ := outcome.exists_of_error
          rw [Generation.paths_outputsOf] at member
          exact ⟨path, member, cause, rfl⟩
  | exports =>
      obtain ⟨done, result, outcome, reported⟩ :=
        Generation.outcome_runExports accepted prototypes directory read
      unfold execute CommandLine.exports at failed
      rw [run_bind, parsed] at failed
      simp only [run_bind] at failed
      cases ran : ((Generation.runExports s prototypes directory : InStore _).run read).1 with
      | ok file =>
          rw [ran] at failed
          cases failed
      | error reason =>
          rw [ran] at failed reported
          subst reported
          cases failed
          obtain ⟨path, member, cause, rfl⟩ := outcome.exists_of_error
          exact ⟨path, member, cause, rfl⟩

/-! ## Commands after a check -/

variable {checkOptions : Options}

/-- A command that writes fails where a check of its listing fails, and changes no file. -/
theorem WritesFiles.perform_of_check_failed
    (writes : WritesFiles input directory command names told)
    (sameManifest : options.manifest = checkOptions.manifest)
    (failed : ((perform checkOptions (.check input)).run session).1.exit = 1) :
    ((perform options command).run session).1.exit = 1 ∧
      ((perform options command).run session).2.store = session.store := by
  have settingsKept := keeps_loadSettings Session.store options.manifest session
  cases found : (loadSettings options.manifest : InStore _).run session with
  | mk settings loaded =>
      rw [found] at settingsKept
      cases settings with
      | error fault =>
          rw [run_perform, run_run_of_error found]
          exact ⟨rfl, settingsKept⟩
      | ok s =>
          have listingKept := Generation.keeps_load Session.store input s.keepRepeated loaded
          cases parsed : (Generation.load input s.keepRepeated : InStore _).run loaded with
          | mk listing read =>
              rw [parsed] at listingKept
              cases listing with
              | error fault =>
                  obtain ⟨reason, ended⟩ := writes.execute_of_load_error parsed
                  rw [run_perform, run_run_of_ok found, ended]
                  exact ⟨rfl, listingKept.trans settingsKept⟩
              | ok prototypes =>
                  rw [run_perform, run_run_of_ok (sameManifest ▸ found), execute,
                    run_check_of_load_ok parsed] at failed
                  cases failed

/-- A check that succeeds has found settings and a listing. -/
theorem exists_of_check_succeeded
    (succeeded : ((perform options (.check input)).run session).1.exit = 0) :
    ∃ s loaded prototypes read,
      (loadSettings options.manifest : InStore _).run session = (.ok s, loaded) ∧
        (Generation.load input s.keepRepeated : InStore _).run loaded = (.ok prototypes, read) := by
  cases found : (loadSettings options.manifest : InStore _).run session with
  | mk settings loaded =>
      cases settings with
      | error fault =>
          rw [run_perform, run_run_of_error found] at succeeded
          cases succeeded
      | ok s =>
          cases parsed : (Generation.load input s.keepRepeated : InStore _).run loaded with
          | mk listing read =>
              cases listing with
              | error fault =>
                  rw [run_perform, run_run_of_ok found, execute,
                    run_check_of_load_error parsed] at succeeded
                  cases succeeded
              | ok prototypes => exact ⟨s, loaded, prototypes, read, rfl, parsed⟩

/-- A command that writes can only fail with its directory or one of its files where a check of
its listing succeeds. -/
theorem WritesFiles.perform_of_check_succeeded
    (writes : WritesFiles input directory command names told)
    (sameManifest : options.manifest = checkOptions.manifest)
    (succeeded : ((perform checkOptions (.check input)).run session).1.exit = 0)
    (failed : ((perform options command).run session).1.exit ≠ 0) :
    ∃ s, ((loadSettings options.manifest : InStore _).run session).1 = .ok s ∧
      ∃ path ∈ directory :: (names s).map (Path.join directory), ∃ cause,
        ((perform options command).run session).1 =
          Result.of [] (.error (told (.files path cause))) := by
  obtain ⟨s, loaded, prototypes, read, found, parsed⟩ := exists_of_check_succeeded succeeded
  rw [← sameManifest] at found
  obtain ⟨fault, ended, result, -⟩ := perform_of_failed failed
  rw [run_run_of_ok found] at ended
  obtain ⟨path, member, cause, rfl⟩ :=
    writes.execute_of_load_ok (accepted_of_loadSettings found) parsed ended
  exact ⟨s, by rw [found], path, member, cause, result⟩

/-! ## Command lines -/

/-- A command line that fails has printed nothing, and a command that is not asked to write
changes no file.  Where a check of a listing fails, the commands that write for the same listing
and with the same manifest fail as well and change no file.  Where the check succeeds, they can
only fail with the directory or with one of the files that they were to write. -/
theorem commands_fail_cleanly (session : Session) :
    (∀ arguments result, start arguments = .error result → result.exit ≠ 1) ∧
    (∀ options command, ((perform options command).run session).1.exit = 1 →
      ((perform options command).run session).1.stdout = "" ∧
        ((perform options command).run session).2.printed = session.printed) ∧
    (∀ options (command : Command), command.OnlyReads →
      ((perform options command).run session).2.store = session.store) ∧
    ∀ checkOptions options input directory command names told,
      WritesFiles input directory command names told →
      options.manifest = checkOptions.manifest →
        (((perform checkOptions (.check input)).run session).1.exit = 1 →
          ((perform options command).run session).1.exit = 1 ∧
            ((perform options command).run session).2.store = session.store) ∧
        (((perform checkOptions (.check input)).run session).1.exit = 0 →
          ((perform options command).run session).1.exit ≠ 0 →
            ∃ s, ((loadSettings options.manifest : InStore _).run session).1 = .ok s ∧
              ∃ path ∈ directory :: (names s).map (Path.join directory), ∃ cause,
                ((perform options command).run session).1 =
                  Result.of [] (.error (told (.files path cause)))) := by
  refine ⟨?_, ?_, ?_, ?_⟩
  · intro arguments result ended
    unfold start at ended
    split at ended <;> cases ended <;> simp
  · intro options command failed
    have notZero : ((perform options command).run session).1.exit ≠ 0 := by simp [failed]
    obtain ⟨fault, -, result, silent⟩ := perform_of_failed notZero
    rw [result]
    exact ⟨rfl, silent⟩
  · intro options command onlyReads
    exact keeps_store_run options onlyReads session
  · intro checkOptions options input directory command names told writes sameManifest
    exact ⟨writes.perform_of_check_failed sameManifest,
      writes.perform_of_check_succeeded sameManifest⟩

/-- A store with two listings, the second of them malformed, and a file where a directory is
wanted. -/
def twoListings : Store :=
  ⟨[(["good.txt"], .file "int f(int a)\n".toUTF8), (["bad.txt"], .file "int f(int a\n".toUTF8),
    (["out"], .file "no directory\n".toUTF8)]⟩

/-- With a listing that a check refuses nothing is exported or printed, and with one that it
accepts only the directory is left to complain about. -/
theorem commands_twoListings_fail_cleanly :
    start ["-v", "check", "bad.txt"] = .ok (⟨1, none⟩, .check "bad.txt") ∧
      start ["exports", "bad.txt", "out"] = .ok (⟨0, none⟩, .exports "bad.txt" "out") ∧
      ((perform ⟨0, none⟩ (.exports "bad.txt" "out")).run ⟨twoListings, [], []⟩).1.exit = 1 ∧
      ((perform ⟨0, none⟩ (.exports "bad.txt" "out")).run ⟨twoListings, [], []⟩).1.stdout = "" ∧
      ((perform ⟨0, none⟩ (.exports "bad.txt" "out")).run ⟨twoListings, [], []⟩).2.store =
        twoListings ∧
      ((perform ⟨0, none⟩ (.check "good.txt")).run ⟨twoListings, [], []⟩).1.stdout =
        "good.txt: 1 definition(s), 5 platform(s)\n" ∧
      ∃ path ∈ ["out", "out/linkcommands"], ∃ cause,
        ((perform ⟨0, none⟩ (.exports "good.txt" "out")).run ⟨twoListings, [], []⟩).1 =
          Result.of [] (.error (.writing "out" (.files path cause))) := by
  obtain ⟨-, silent, -, afterCheck⟩ := commands_fail_cleanly ⟨twoListings, [], []⟩
  have refused := (afterCheck ⟨1, none⟩ ⟨0, none⟩ "bad.txt" "out" _ _ _ .exports rfl).1 rfl
  obtain ⟨s, found, path, member, cause, told⟩ :=
    (afterCheck ⟨1, none⟩ ⟨0, none⟩ "good.txt" "out" _ _ _ .exports rfl).2 rfl (by decide +kernel)
  have standard : s = .standard := (Except.ok.inj found).symm
  subst standard
  exact ⟨rfl, rfl, refused.1, (silent _ _ refused.1).1, refused.2, rfl, path, member, cause, told⟩

end CommandLine
end BindingGen
