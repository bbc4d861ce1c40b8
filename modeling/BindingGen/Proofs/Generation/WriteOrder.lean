import BindingGen.Proofs.Files.Creation
import BindingGen.Proofs.Generation.Outputs

/-!
# Runs as ordered writes

A run interleaves emitting, writing and noting.  It is shown here to be a plain sequence: the
directory is created, and the outputs, all known in advance, are written in order up to the first
that fails.  The report, the fault and the files on disk follow from that sequence, and no other
place of the store changes.
-/

namespace BindingGen
namespace Generation

open Store InStore

/-- What becomes of writing files in order: all of them are done, or one is the first that cannot
be written and those before it are done. -/
inductive Writing (current : Place) (before : Store) (files : List Output) :
    (done : List Output) → Except Fault (List WrittenFile) → Store → Prop
  | complete {after : Store} :
      writeOutputs current before files = .ok after →
        Writing current before files files (.ok (files.map Output.written)) after
  | stopped (done : List Output) (output : Output) (rest : List Output) {reached : Store}
      {fault : FileFault} :
      files = done ++ output :: rest →
      writeOutputs current before done = .ok reached →
      reached.write current output.path output.bytes = .error fault →
        Writing current before files done (.error (.files output.path fault)) reached

variable {current : Place} {before after : Store} {files done : List Output}
  {result : Except Fault (List WrittenFile)}

theorem Writing.cons {next : Store} (output : Output)
    (first : before.write current output.path output.bytes = .ok next)
    (others : Writing current next files done result after) :
    Writing current before (output :: files) (output :: done)
      (result.map (output.written :: ·)) after := by
  cases others with
  | complete written =>
      exact .complete (writeOutputs_cons_eq_ok_iff.mpr ⟨next, first, written⟩)
  | stopped _ failing later shape written failed =>
      refine .stopped (output :: done) failing later ?_ ?_ failed
      · rw [shape, List.cons_append]
      · exact writeOutputs_cons_eq_ok_iff.mpr ⟨next, first, written⟩

theorem Writing.isPrefix (writing : Writing current before files done result after) :
    done <+: files := by
  cases writing with
  | complete => exact List.prefix_refl files
  | stopped _ _ _ shape => exact shape ▸ List.prefix_append ..

theorem Writing.writeOutputs_done (writing : Writing current before files done result after) :
    writeOutputs current before done = .ok after := by
  cases writing with
  | complete written => exact written
  | stopped _ _ _ _ written => exact written

theorem Writing.eq_of_writeOutputs {reached : Store}
    (writing : Writing current before files done result after)
    (written : writeOutputs current before files = .ok reached) :
    result = .ok (files.map Output.written) ∧ after = reached := by
  cases writing with
  | complete all =>
      rw [written] at all
      exact ⟨rfl, (Except.ok.inj all).symm⟩
  | stopped _ failing later shape all failed =>
      rw [shape] at written
      obtain ⟨between, first, others⟩ := writeOutputs_append_eq_ok_iff.mp written
      obtain ⟨next, succeeded, -⟩ := writeOutputs_cons_eq_ok_iff.mp others
      rw [all] at first
      cases first
      rw [failed] at succeeded
      cases succeeded

/-! ## Steps of a run on a session -/

theorem run_writeSource_of_error {directory : String} {role : FileRole} {file : SourceFile}
    {session : Session} {fault : FileFault}
    (failed : session.store.write session.current (Path.join directory file.name)
      file.contents.toUTF8 = .error fault) :
    (writeSource directory role file : InStore _).run session =
      (.error (.files (Path.join directory file.name) fault), session) := by
  unfold writeSource
  simp only [run_bind, run_writeBytes, failed]
  rfl

theorem run_writeSource_of_ok {directory : String} (role : FileRole) {file : SourceFile}
    {session : Session} {store : Store}
    (written : session.store.write session.current (Path.join directory file.name)
      file.contents.toUTF8 = .ok store) :
    ∃ events, (writeSource directory role file : InStore _).run session =
      (.ok (Output.ofSource directory role file).written, ⟨store, session.current, events⟩) := by
  unfold writeSource
  simp only [run_bind, run_writeBytes, written]
  exact ⟨_, rfl⟩

/-- Writing planned files that were all emitted is writing their outputs in order. -/
theorem writing_writeAll (directory : String) (files : List (FileRole × SourceFile))
    (session : Session) :
    ∃ done, Writing session.current session.store (outputsOf directory files) done
      ((writeAll directory (files.map fun file => (file.1, .ok file.2)) :
        InStore _).run session).1
      ((writeAll directory (files.map fun file => (file.1, .ok file.2)) :
        InStore _).run session).2.store := by
  induction files generalizing session with
  | nil => exact ⟨[], .complete rfl⟩
  | cons file rest ih =>
      simp only [List.map_cons, writeAll, run_bind, outputsOf]
      cases written : session.store.write session.current (Path.join directory file.2.name)
          file.2.contents.toUTF8 with
      | error fault =>
          rw [run_writeSource_of_error written]
          exact ⟨[], .stopped [] (Output.ofSource directory file.1 file.2) _ rfl rfl written⟩
      | ok store =>
          obtain ⟨events, ran⟩ := run_writeSource_of_ok file.1 written
          rw [ran]
          simp only [run_bind]
          obtain ⟨done, others⟩ := ih ⟨store, session.current, events⟩
          have all := others.cons (Output.ofSource directory file.1 file.2) written
          refine ⟨Output.ofSource directory file.1 file.2 :: done, ?_⟩
          revert all
          generalize (writeAll directory (rest.map fun file => (file.1, .ok file.2)) :
            InStore _).run _ = ended
          obtain ⟨result, final⟩ := ended
          intro all
          cases result <;> exact all

theorem run_prepare_of_error {s : Settings} (accepted : s.validate = .ok ()) {directory : String}
    {session prepared : Session} {fault : FileFault}
    (created : (Workspace.createDirectories directory : InStore _).run session =
      (.error fault, prepared)) :
    (prepare s directory : InStore _).run session =
      (.error (.files directory fault), prepared) := by
  simp [prepare, accepted, created]

theorem run_prepare_of_ok {s : Settings} (accepted : s.validate = .ok ()) {directory : String}
    {session prepared : Session}
    (created : (Workspace.createDirectories directory : InStore _).run session =
      (.ok (), prepared)) :
    (prepare s directory : InStore _).run session = (.ok (), prepared) := by
  simp [prepare, accepted, created]

/-! ## Runs -/

/-- A run whose settings are refused leaves the session as it is. -/
theorem run_of_refused {s : Settings} {fault : Settings.Fault}
    (refused : s.validate = .error fault) (prototypes : List Prototype) (directory : String)
    (session : Session) :
    (run s prototypes directory : InStore _).run session = (.error (.settings fault), session) := by
  simp [run, prepare, refused]

/-- What becomes of a run: the directory cannot be created and nothing is done, or it is created
and the files are written in order to the store that has it. -/
inductive Outcome (session : Session) (directory : String) (files : List Output) :
    (done : List Output) → Except Fault (List WrittenFile) → Store → Prop
  | unprepared {fault : FileFault} {prepared : Session} :
      (Workspace.createDirectories directory : InStore _).run session =
          (.error fault, prepared) →
        Outcome session directory files [] (.error (.files directory fault)) prepared.store
  | prepared {prepared : Session} {done : List Output}
      {result : Except Fault (List WrittenFile)} {after : Store} :
      (Workspace.createDirectories directory : InStore _).run session = (.ok (), prepared) →
      Writing session.current prepared.store files done result after →
        Outcome session directory files done result after

theorem outcome_run {s : Settings} (accepted : s.validate = .ok ()) (prototypes : List Prototype)
    (directory : String) (session : Session) :
    ∃ done result, Outcome session directory (outputsOf directory (sources s prototypes)) done
        result ((run s prototypes directory : InStore _).run session).2.store ∧
      ((run s prototypes directory : InStore _).run session).1 =
        result.map (Report.mk prototypes.length) := by
  unfold run
  simp only [run_bind, plan_eq]
  cases created : (Workspace.createDirectories directory : InStore _).run session with
  | mk outcome prepared =>
      cases outcome with
      | error fault =>
          rw [run_prepare_of_error accepted created]
          exact ⟨_, _, .unprepared created, rfl⟩
      | ok =>
          obtain ⟨done, writing⟩ := writing_writeAll directory (sources s prototypes) prepared
          rw [Workspace.current_of_createDirectories created] at writing
          rw [run_prepare_of_ok accepted created]
          simp only [run_bind]
          revert writing
          generalize (writeAll directory ((sources s prototypes).map
            fun file => (file.1, .ok file.2)) : InStore _).run prepared = ended
          obtain ⟨result, final⟩ := ended
          intro writing
          cases result <;> exact ⟨_, _, .prepared created writing, rfl⟩

theorem outcome_runExports {s : Settings} (accepted : s.validate = .ok ())
    (prototypes : List Prototype) (directory : String) (session : Session) :
    ∃ done result, Outcome session directory
        (outputsOf directory [(.exportList, ⟨s.exportFile, SourceFile.exportText s prototypes⟩)])
        done result ((runExports s prototypes directory : InStore _).run session).2.store ∧
      ((runExports s prototypes directory : InStore _).run session).1.map ([·]) = result := by
  unfold runExports
  simp only [run_bind, SourceFile.exportList_eq]
  generalize (⟨s.exportFile, SourceFile.exportText s prototypes⟩ : SourceFile) = file
  cases created : (Workspace.createDirectories directory : InStore _).run session with
  | mk outcome prepared =>
      have sameCurrent := Workspace.current_of_createDirectories created
      cases outcome with
      | error fault =>
          rw [run_prepare_of_error accepted created]
          exact ⟨_, _, .unprepared created, rfl⟩
      | ok =>
          rw [run_prepare_of_ok accepted created]
          simp only
          cases written : prepared.store.write prepared.current (Path.join directory file.name)
              file.contents.toUTF8 with
          | error fault =>
              rw [run_writeSource_of_error written]
              refine ⟨[], _, .prepared created ?_, rfl⟩
              rw [← sameCurrent]
              exact .stopped [] _ [] rfl rfl written
          | ok store =>
              obtain ⟨events, ran⟩ := run_writeSource_of_ok .exportList written
              rw [ran]
              refine ⟨outputsOf directory [(.exportList, file)], _, .prepared created ?_, rfl⟩
              rw [← sameCurrent]
              exact .complete (writeOutputs_cons_eq_ok_iff.mpr ⟨store, written, rfl⟩)

theorem Outcome.of_ok {session : Session} {directory : String} {written : List WrittenFile}
    (outcome : Outcome session directory files done (.ok written) after) :
    written = files.map Output.written ∧
      ∃ prepared, (Workspace.createDirectories directory : InStore _).run session =
          (.ok (), prepared) ∧
        writeOutputs session.current prepared.store files = .ok after := by
  cases outcome with
  | prepared created writing =>
      cases writing with
      | complete all => exact ⟨rfl, _, created, all⟩

/-- When the files can be written in order, a run reports all of them. -/
theorem run_of_writeOutputs {s : Settings} (accepted : s.validate = .ok ())
    (prototypes : List Prototype) {directory : String} {session prepared : Session}
    (created : (Workspace.createDirectories directory : InStore _).run session =
      (.ok (), prepared))
    (writable : (writeOutputs session.current prepared.store
      (outputsOf directory (sources s prototypes))).isOk = true) :
    ∃ final, (run s prototypes directory : InStore _).run session =
        (.ok ⟨prototypes.length,
          (outputsOf directory (sources s prototypes)).map Output.written⟩, final) ∧
      writeOutputs session.current prepared.store (outputsOf directory (sources s prototypes)) =
        .ok final.store := by
  cases written : writeOutputs session.current prepared.store
      (outputsOf directory (sources s prototypes)) with
  | error fault =>
      rw [written] at writable
      cases writable
  | ok reached =>
      obtain ⟨done, result, outcome, reported⟩ :=
        outcome_run accepted prototypes directory session
      have settled :
          result = .ok ((outputsOf directory (sources s prototypes)).map Output.written) ∧
          ((run s prototypes directory : InStore _).run session).2.store = reached := by
        revert outcome
        generalize ((run s prototypes directory : InStore _).run session).2.store = after
        intro outcome
        cases outcome with
        | unprepared failed =>
            rw [created] at failed
            cases failed
        | prepared same writing =>
            rw [created] at same
            cases same
            exact writing.eq_of_writeOutputs written
      rw [settled.1] at reported
      exact ⟨_, Prod.ext reported rfl, congrArg Except.ok settled.2.symm⟩

/-- A run that reports files has written all of its outputs in order. -/
theorem writeOutputs_of_run {s : Settings} (accepted : s.validate = .ok ())
    {prototypes : List Prototype} {directory : String} {session final : Session}
    {report : Report}
    (ran : (run s prototypes directory : InStore _).run session = (.ok report, final)) :
    report = ⟨prototypes.length,
        (outputsOf directory (sources s prototypes)).map Output.written⟩ ∧
      ∃ prepared, (Workspace.createDirectories directory : InStore _).run session =
          (.ok (), prepared) ∧
        writeOutputs session.current prepared.store
          (outputsOf directory (sources s prototypes)) = .ok final.store := by
  obtain ⟨done, result, outcome, reported⟩ :=
    outcome_run accepted prototypes directory session
  rw [ran] at outcome reported
  cases result with
  | error fault => cases reported
  | ok written =>
      obtain ⟨rfl, prepared, created, all⟩ := outcome.of_ok
      exact ⟨Except.ok.inj reported, prepared, created, all⟩

theorem Outcome.isPrefix {session : Session} {directory : String}
    (outcome : Outcome session directory files done result after) : done <+: files := by
  cases outcome with
  | unprepared => exact List.nil_prefix
  | prepared _ writing => exact writing.isPrefix

theorem Outcome.writeOutputs_done {session : Session} {directory : String}
    (outcome : Outcome session directory files done result after) :
    writeOutputs session.current
      ((Workspace.createDirectories directory : InStore _).run session).2.store done =
        .ok after := by
  cases outcome with
  | unprepared created =>
      rw [created]
      rfl
  | prepared created writing =>
      rw [created]
      exact writing.writeOutputs_done

/-- A place that differs after a run held nothing and is a directory that the path of its directory
or of one around it leads to, or it is the file of an output that was written. -/
theorem Outcome.find?_eq_or {session : Session} {directory : String}
    (outcome : Outcome session directory files done result after) (place : Place) :
    after.find? place = session.store.find? place ∨
      (session.store.find? place = none ∧ after.find? place = some .directory ∧
        ∃ path ∈ Path.ancestors directory, after.locate session.current path = .ok place) ∨
      ∃ output ∈ done, after.locate session.current output.path = .ok place ∧
        after.find? place = some (.file output.bytes) := by
  have written := outcome.writeOutputs_done
  have creation := (Workspace.onlyCreates_createDirectories directory session).2.find?_eq_or place
  rcases find?_of_writeOutputs written place with unchanged | ⟨output, member, same, found⟩
  · rw [unchanged]
    rcases creation with untouched | ⟨missing, isDirectory, path, member, located⟩
    · exact .inl untouched
    · exact .inr (.inl ⟨missing, isDirectory, path, member,
        locate_of_keepsDirectories (keepsDirectories_of_writeOutputs written) located⟩)
  · refine .inr (.inr ⟨output, member, ?_, found⟩)
    rw [← same]
    exact locate_of_mem_writeOutputs written member

/-- A run with accepted settings is the creation of its directory followed by the ordered writes
of its outputs.  Its outcome, report and store are those of that sequence, and every place that
differs afterwards is reached by the path of an output, of the directory or of one around it. -/
theorem run_is_ordered_writes (s : Settings) (prototypes : List Prototype) (directory : String)
    (session : Session) (accepted : s.validate = .ok ()) :
    ∃ files done result,
      outputs s prototypes directory = .ok files ∧
      files.map Output.role =
        s.platforms.map (fun p => FileRole.binding p.id) ++ [.reference, .exportList] ∧
      files.map Output.path =
        (s.platforms.map s.bindingFile ++ [s.referenceFile, s.exportFile]).map
          (Path.join directory) ∧
      Outcome session directory files done result
        ((run s prototypes directory : InStore _).run session).2.store ∧
      ((run s prototypes directory : InStore _).run session).1 =
        result.map (Report.mk prototypes.length) ∧
      ∀ place,
        ((run s prototypes directory : InStore _).run session).2.store.find? place ≠
            session.store.find? place →
          ∃ path ∈ done.map Output.path ++ Path.ancestors directory,
            ((run s prototypes directory : InStore _).run session).2.store.locate
              session.current path = .ok place := by
  obtain ⟨done, result, outcome, reported⟩ :=
    outcome_run accepted prototypes directory session
  refine ⟨outputsOf directory (sources s prototypes), done, result,
    outputs_eq s prototypes directory, ?_, ?_, outcome, reported, ?_⟩
  · simp [outputsOf, sources, Output.ofSource, Function.comp_def]
  · simp [outputsOf, sources, Output.ofSource, Function.comp_def]
  · intro place changed
    rcases outcome.find?_eq_or place with
      unchanged | ⟨-, -, path, member, located⟩ | ⟨output, member, located, -⟩
    · exact absurd unchanged changed
    · exact ⟨path, List.mem_append_right _ member, located⟩
    · exact ⟨output.path, List.mem_append_left _ (List.mem_map_of_mem member), located⟩

/-- A store in which a directory has the name of the standard export list. -/
def blockedStore : Store :=
  ⟨[(["out"], .directory), (["out", "linkcommands"], .directory)]⟩

/-- The standard settings run as ordered writes also where their last write fails. -/
theorem run_standard_is_ordered_writes :
    Settings.standard.validate = .ok () ∧
      ∃ files done result,
        outputs Settings.standard [⟨"f", ["int a"], "int"⟩] "out" = .ok files ∧
        Outcome ⟨blockedStore, [], []⟩ "out" files done result
          ((run Settings.standard [⟨"f", ["int a"], "int"⟩] "out" : InStore _).run
            ⟨blockedStore, [], []⟩).2.store := by
  have accepted : Settings.standard.validate = .ok () := rfl
  obtain ⟨files, done, result, emitted, -, -, outcome, -, -⟩ :=
    run_is_ordered_writes Settings.standard [⟨"f", ["int a"], "int"⟩] "out"
      ⟨blockedStore, [], []⟩ accepted
  exact ⟨accepted, files, done, result, emitted, outcome⟩

end Generation
end BindingGen
