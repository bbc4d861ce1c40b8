import BindingGen.Proofs.Generation.Kept
import BindingGen.Proofs.Generation.WriteOrder

/-!
# How a run can fail

A run can fail while its listing is loaded, when its settings are checked, and when its directory
or one of its files is written; the texts themselves are always emitted.  The first two come
before anything is changed, so a listing or settings that are refused leave no directory and no
file behind.
-/

namespace BindingGen
namespace Generation

open InStore

theorem Writing.exists_of_error {current : Place} {before after : Store}
    {files done : List Output} {fault : Fault}
    (writing : Writing current before files done (.error fault) after) :
    ∃ output ∈ files, ∃ cause, fault = .files output.path cause := by
  cases writing with
  | stopped _ output rest shape =>
      refine ⟨output, ?_, _, rfl⟩
      rw [shape]
      exact List.mem_append_right _ List.mem_cons_self

theorem Outcome.exists_of_error {session : Session} {directory : String} {after : Store}
    {files done : List Output} {fault : Fault}
    (outcome : Outcome session directory files done (.error fault) after) :
    ∃ path ∈ directory :: files.map Output.path, ∃ cause, fault = .files path cause := by
  cases outcome with
  | unprepared => exact ⟨directory, List.mem_cons_self, _, rfl⟩
  | prepared _ writing =>
      obtain ⟨output, member, cause, rfl⟩ := writing.exists_of_error
      exact ⟨output.path, List.mem_cons_of_mem _ (List.mem_map_of_mem member), cause, rfl⟩

theorem runExports_of_refused {s : Settings} {fault : Settings.Fault}
    (refused : s.validate = .error fault) (prototypes : List Prototype) (directory : String)
    (session : Session) :
    (runExports s prototypes directory : InStore _).run session =
      (.error (.settings fault), session) := by
  unfold runExports prepare
  rw [refused]
  rfl

/-- Refused settings are told before anything is changed, and with accepted settings only the
files that are written can be a reason for failing. -/
structure FailsCleanly {α : Type} (s : Settings) (before : Session)
    (outcome : Except Fault α × Session) : Prop where
  refused : ∀ fault, s.validate = .error fault → outcome = (.error (.settings fault), before)
  accepted : s.validate = .ok () →
    ∀ fault, outcome.1 = .error fault → ∃ path cause, fault = .files path cause

theorem failsCleanly_run (s : Settings) (prototypes : List Prototype) (directory : String)
    (session : Session) :
    FailsCleanly s session ((run s prototypes directory : InStore _).run session) where
  refused _ refused := run_of_refused refused prototypes directory session
  accepted := by
    intro accepted fault failed
    obtain ⟨done, result, outcome, reported⟩ :=
      outcome_run accepted prototypes directory session
    rw [failed] at reported
    cases result with
    | error cause =>
        cases reported
        obtain ⟨path, -, cause, rfl⟩ := outcome.exists_of_error
        exact ⟨path, cause, rfl⟩
    | ok written => cases reported

theorem failsCleanly_runExports (s : Settings) (prototypes : List Prototype)
    (directory : String) (session : Session) :
    FailsCleanly s session ((runExports s prototypes directory : InStore _).run session) where
  refused _ refused := runExports_of_refused refused prototypes directory session
  accepted := by
    intro accepted fault failed
    obtain ⟨done, result, outcome, reported⟩ :=
      outcome_runExports accepted prototypes directory session
    rw [failed] at reported
    subst reported
    obtain ⟨path, -, cause, rfl⟩ := outcome.exists_of_error
    exact ⟨path, cause, rfl⟩

/-! ## Loading the listing -/

theorem load_fault {path : String} {keepRepeated : Bool} {session loaded : Session}
    {fault : Fault}
    (failed : (load path keepRepeated : InStore _).run session = (.error fault, loaded)) :
    (∃ cause, fault = .files path cause) ∨ ∃ cause, fault = .listing cause := by
  unfold load at failed
  obtain ⟨text, afterReading, -, failed⟩ := exists_of_run_bind failed
  cases text with
  | error cause =>
      cases failed
      exact .inl ⟨cause, rfl⟩
  | ok text =>
      obtain ⟨-, noted, -, failed⟩ := exists_of_run_bind failed
      split at failed
      next cause _ =>
        cases failed
        exact .inr ⟨cause, rfl⟩
      next prototypes _ => split at failed <;> cases failed

theorem runFile_of_load_error {s : Settings} {input directory : String}
    {session loaded : Session} {fault : Fault}
    (failed : (load input s.keepRepeated : InStore _).run session = (.error fault, loaded)) :
    (runFile s input directory : InStore _).run session = (.error fault, loaded) := by
  simp [runFile, failed]

theorem runFile_of_load_ok {s : Settings} {input directory : String}
    {session loaded : Session} {prototypes : List Prototype}
    (parsed : (load input s.keepRepeated : InStore _).run session = (.ok prototypes, loaded)) :
    (runFile s input directory : InStore _).run session =
      (run s prototypes directory : InStore _).run loaded := by
  simp [runFile, parsed]

/-- A listing that cannot be loaded ends a run on a file with just that fault, refused settings
end every run with the fault of the settings, and neither changes the store.  After that a run
can only fail with a path that cannot be created or written. -/
theorem runs_fail_cleanly (s : Settings) (directory : String) (session : Session) :
    (∀ prototypes, FailsCleanly s session
      ((run s prototypes directory : InStore _).run session)) ∧
    (∀ prototypes, FailsCleanly s session
      ((runExports s prototypes directory : InStore _).run session)) ∧
    (∀ input fault loaded,
      (load input s.keepRepeated : InStore _).run session = (.error fault, loaded) →
        loaded.store = session.store ∧
          ((∃ cause, fault = .files input cause) ∨ ∃ cause, fault = .listing cause) ∧
          (runFile s input directory : InStore _).run session = (.error fault, loaded)) ∧
    ∀ input prototypes loaded,
      (load input s.keepRepeated : InStore _).run session = (.ok prototypes, loaded) →
        loaded.store = session.store ∧
          FailsCleanly s loaded ((runFile s input directory : InStore _).run session) := by
  refine ⟨fun prototypes => failsCleanly_run s prototypes directory session,
    fun prototypes => failsCleanly_runExports s prototypes directory session, ?_, ?_⟩
  · intro input fault loaded failed
    have kept := keeps_load Session.store input s.keepRepeated session
    rw [failed] at kept
    exact ⟨kept, load_fault failed, runFile_of_load_error failed⟩
  · intro input prototypes loaded parsed
    have kept := keeps_load Session.store input s.keepRepeated session
    rw [parsed] at kept
    refine ⟨kept, ?_⟩
    rw [runFile_of_load_ok parsed]
    exact failsCleanly_run s prototypes directory loaded

/-- Settings with a name that is no identifier. -/
def misnamedSettings : Settings :=
  { Settings.standard with className := "Native Calls" }

/-- A listing that declares a name twice. -/
def repeatedListing : Store :=
  ⟨[(["twice.txt"], .file "int f()\nint f()".toUTF8)]⟩

/-- A repeated name is told even when the settings would be refused, and without one the settings
are; neither creates the directory. -/
theorem runs_misnamedSettings_fail_cleanly :
    (runFile misnamedSettings "twice.txt" "out" : InStore _).run ⟨repeatedListing, [], []⟩ =
        (.error (.listing (.repeated ⟨"f", 1, 2⟩)), ⟨repeatedListing, [], []⟩) ∧
      (run misnamedSettings [] "out" : InStore _).run ⟨repeatedListing, [], []⟩ =
        (.error (.settings (.invalidSymbol .className "Native Calls")),
          ⟨repeatedListing, [], []⟩) := by
  obtain ⟨running, -, loading, -⟩ :=
    runs_fail_cleanly misnamedSettings "out" ⟨repeatedListing, [], []⟩
  exact ⟨(loading "twice.txt" _ _ rfl).2.2, (running []).refused _ rfl⟩

end Generation
end BindingGen
