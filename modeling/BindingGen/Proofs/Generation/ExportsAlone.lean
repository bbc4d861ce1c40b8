import BindingGen.Proofs.Generation.Faults
import BindingGen.Proofs.Generation.Reproduction

/-!
# The export list alone

The export list can be written without the other files of a run.  What comes before it in a run
makes no directory after the one that is created for all files, so it does not decide whether the
export list can be written, and what the list holds depends on the settings and prototypes alone.
-/

namespace BindingGen
namespace Generation

open Store InStore

theorem keepsDirectories_before_writeOutputs {current : Place} {store final : Store}
    {files : List Output} (written : writeOutputs current store files = .ok final) :
    KeepsDirectories final store := by
  induction files generalizing store with
  | nil =>
      cases written
      exact .refl _
  | cons output rest ih =>
      obtain ⟨between, first, others⟩ := writeOutputs_cons_eq_ok_iff.mp written
      exact (ih others).trans (keepsDirectories_before_write first)

/-- The export list as an output of a run. -/
def exportOutput (s : Settings) (prototypes : List Prototype) (directory : String) : Output :=
  Output.ofSource directory .exportList ⟨s.exportFile, SourceFile.exportText s prototypes⟩

/-- The export list is the last output of a run. -/
theorem exists_outputsOf_append (s : Settings) (prototypes : List Prototype)
    (directory : String) :
    ∃ earlier, outputsOf directory (sources s prototypes) =
      earlier ++ [exportOutput s prototypes directory] := by
  refine ⟨outputsOf directory (s.platforms.map (fun p =>
    (FileRole.binding p.id, ⟨s.bindingFile p, SourceFile.bindingText s p prototypes⟩)) ++
      [(.reference, ⟨s.referenceFile, SourceFile.referenceText s prototypes⟩)]), ?_⟩
  simp [outputsOf, sources, exportOutput]

theorem FailsCleanly.settings_iff {α : Type} {s : Settings} {before : Session}
    {outcome : Except Fault α × Session} (clean : FailsCleanly s before outcome)
    (fault : Settings.Fault) :
    outcome.1 = .error (.settings fault) ↔ s.validate = .error fault := by
  cases checked : s.validate with
  | error other =>
      rw [clean.refused other checked]
      simp
  | ok =>
      simp only [reduceCtorEq, iff_false]
      intro failed
      obtain ⟨path, cause, isFiles⟩ := clean.accepted checked _ failed
      cases isFiles

theorem runExports_of_write {s : Settings} (accepted : s.validate = .ok ())
    {prototypes : List Prototype} {directory : String} {session prepared : Session}
    (created : (Workspace.createDirectories directory : InStore _).run session =
      (.ok (), prepared)) {store : Store}
    (written : prepared.store.write prepared.current (exportOutput s prototypes directory).path
      (exportOutput s prototypes directory).bytes = .ok store) :
    ∃ events, (runExports s prototypes directory : InStore _).run session =
      (.ok (exportOutput s prototypes directory).written, ⟨store, prepared.current, events⟩) := by
  unfold runExports
  rw [run_bind, run_prepare_of_ok accepted created, SourceFile.exportList_eq]
  exact run_writeSource_of_ok .exportList written

/-- Writing the export list alone changes the place of its path and creates directories around
it. -/
theorem find?_of_runExports {s : Settings} (accepted : s.validate = .ok ())
    {prototypes : List Prototype} {directory : String} {session final : Session}
    {result : Except Fault WrittenFile}
    (ran : (runExports s prototypes directory : InStore _).run session = (result, final))
    {place : Place} (changed : final.store.find? place ≠ session.store.find? place) :
    final.store.locate session.current (exportOutput s prototypes directory).path = .ok place ∨
      (session.store.find? place = none ∧ final.store.find? place = some .directory ∧
        ∃ path ∈ Path.ancestors directory,
          final.store.locate session.current path = .ok place) := by
  obtain ⟨done, written, outcome, -⟩ := outcome_runExports accepted prototypes directory session
  rw [ran] at outcome
  rcases outcome.find?_eq_or place with unchanged | created | ⟨output, member, located, -⟩
  · exact absurd unchanged changed
  · exact .inr created
  · have isExport : output = exportOutput s prototypes directory :=
      List.mem_singleton.mp (outcome.isPrefix.subset member)
    exact .inl (isExport ▸ located)

/-- Writing the export list alone refuses the same settings with the same fault as a whole run.
Where a whole run succeeds it succeeds as well, reports the last file of that run, leaves the same
bytes in it and changes no other file. -/
theorem runExports_is_last_of_run (s : Settings) (prototypes : List Prototype)
    (directory : String) (session : Session) :
    (∀ fault,
      (((run s prototypes directory : InStore _).run session).1 = .error (.settings fault) ↔
        s.validate = .error fault) ∧
      (((runExports s prototypes directory : InStore _).run session).1 =
          .error (.settings fault) ↔
        s.validate = .error fault)) ∧
    ∀ report final,
      (run s prototypes directory : InStore _).run session = (.ok report, final) →
        ∃ file exported source,
          (runExports s prototypes directory : InStore _).run session = (.ok file, exported) ∧
          report.files.getLast? = some file ∧
          SourceFile.exportList s prototypes = .ok source ∧
          final.store.read session.current file.path = .ok source.contents.toUTF8 ∧
          exported.store.read session.current file.path = .ok source.contents.toUTF8 ∧
          ∀ place, exported.store.find? place ≠ session.store.find? place →
            exported.store.locate session.current file.path = .ok place ∨
              (session.store.find? place = none ∧
                exported.store.find? place = some .directory ∧
                ∃ path ∈ Path.ancestors directory,
                  exported.store.locate session.current path = .ok place) := by
  refine ⟨fun fault => ⟨(failsCleanly_run s prototypes directory session).settings_iff fault,
    (failsCleanly_runExports s prototypes directory session).settings_iff fault⟩, ?_⟩
  intro report final ran
  have accepted := accepted_of_run ran
  obtain ⟨rfl, prepared, created, written⟩ := writeOutputs_of_run accepted ran
  have sameCurrent := Workspace.current_of_createDirectories created
  obtain ⟨earlier, shape⟩ := exists_outputsOf_append s prototypes directory
  rw [shape] at written
  obtain ⟨between, first, last⟩ := writeOutputs_append_eq_ok_iff.mp written
  obtain ⟨next, lastWritten, nothing⟩ := writeOutputs_cons_eq_ok_iff.mp last
  cases nothing
  obtain ⟨alone, writtenAlone⟩ := exists_write_of_keepsDirectories
    (keepsDirectories_before_writeOutputs first) (keepsDirectories_of_writeOutputs first)
    lastWritten
  rw [← sameCurrent] at writtenAlone
  obtain ⟨events, ranAlone⟩ := runExports_of_write accepted created writtenAlone
  rw [sameCurrent] at writtenAlone
  refine ⟨_, _, _, ranAlone, ?_, SourceFile.exportList_eq s prototypes,
    read_of_write lastWritten, read_of_write writtenAlone,
    fun place changed => find?_of_runExports accepted ranAlone changed⟩
  rw [shape, List.map_append, List.map_singleton, List.getLast?_concat]

/-- The export list of a run is written alone as well where the run puts it over the reference
file and finds an earlier file there. -/
theorem runExports_overlappingSettings_is_last :
    ∃ report final file exported,
      (run overlappingSettings [⟨"f", ["int a"], "int"⟩] "out" : InStore _).run
          ⟨leftoverStore, [], []⟩ = (.ok report, final) ∧
      (runExports overlappingSettings [⟨"f", ["int a"], "int"⟩] "out" : InStore _).run
          ⟨leftoverStore, [], []⟩ = (.ok file, exported) ∧
      report.files.getLast? = some file ∧
      final.store.read [] file.path = .ok "export f\n".toUTF8 ∧
      exported.store.read [] file.path = .ok "export f\n".toUTF8 := by
  have accepted : overlappingSettings.validate = .ok () := rfl
  have found : (Workspace.createDirectories "out" : InStore _).run ⟨leftoverStore, [], []⟩ =
      (.ok (), ⟨leftoverStore, [], []⟩) := rfl
  obtain ⟨final, ran, -⟩ :=
    run_of_writeOutputs accepted [⟨"f", ["int a"], "int"⟩] found (by decide +kernel)
  obtain ⟨file, exported, source, ranAlone, isLast, isExport, readBack, readAlone, -⟩ :=
    (runExports_is_last_of_run overlappingSettings [⟨"f", ["int a"], "int"⟩] "out"
      ⟨leftoverStore, [], []⟩).2 _ final ran
  have isText : SourceFile.exportList overlappingSettings [⟨"f", ["int a"], "int"⟩] =
      .ok ⟨"NativeCalls.ref.cs", "export f\n"⟩ := rfl
  cases isText.symm.trans isExport
  exact ⟨_, final, file, exported, ran, ranAlone, isLast, readBack, readAlone⟩

end Generation
end BindingGen
