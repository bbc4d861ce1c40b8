import BindingGen.Proofs.Generation.Survival

/-!
# Runs that stay in their directory

A run writes into its directory by joining names of files onto it.  The names are single
components except where an id of a platform holds a slash, and a single component leads directly
into the directory whatever is there already.  The first slash in an id decides: up to it every
file is written directly into the directory, and with it a path is used that leads further.
-/

namespace BindingGen
namespace Generation

open Store InStore

/-- Every place that differs is a file directly inside a directory, or it was empty and is now
that directory or one around it. -/
def StaysInside (current : Place) (directory : String) (before after : Store) : Prop :=
  ∀ place, after.find? place ≠ before.find? place →
    (∃ component bytes, Path.IsComponent component ∧
      after.locate current (Path.join directory component) = .ok place ∧
      place = target current directory ++ [component] ∧
      after.find? place = some (.file bytes)) ∨
    (before.find? place = none ∧ after.find? place = some .directory ∧
      ∃ path ∈ Path.ancestors directory, after.locate current path = .ok place)

/-- Paths of single components are enough to stay inside. -/
theorem Outcome.staysInside {session : Session} {directory : String} {files done : List Output}
    {result : Except Fault (List WrittenFile)} {after : Store}
    (outcome : Outcome session directory files done result after)
    (directly : ∀ output ∈ done, Path.DirectlyBelow directory output.path) :
    StaysInside session.current directory session.store after := by
  intro place changed
  rcases outcome.find?_eq_or place with unchanged | created | ⟨output, member, located, found⟩
  · exact absurd unchanged changed
  · exact .inr created
  · obtain ⟨component, isComponent, path⟩ := directly output member
    rw [path] at located
    refine .inl ⟨component, output.bytes, isComponent, located, ?_, found⟩
    rw [eq_target_of_locate located, target_join_component isComponent]

/-- Among the first outputs of a run, those of platforms decide whether all are directly below
the directory. -/
theorem directlyBelow_outputs_iff {s : Settings} (accepted : s.validate = .ok ())
    (prototypes : List Prototype) (directory : String) {done : List Output}
    (isPrefix : done <+: outputsOf directory (sources s prototypes)) :
    (∀ output ∈ done, Path.DirectlyBelow directory output.path) ↔
      ∀ p ∈ s.platforms.take done.length, '/' ∉ p.id.toList := by
  obtain ⟨-, -, -, plainPrefix, plainExport⟩ := Settings.accepted_iff.mp accepted
  have binding (p : Platform) :
      Path.DirectlyBelow directory (Path.join directory (s.bindingFile p)) ↔ '/' ∉ p.id.toList :=
    (Path.directlyBelow_join_iff (Settings.isAbsolute_bindingFile plainPrefix p)).trans
      (Settings.isComponent_bindingFile_iff plainPrefix)
  have others (name : String) (member : name ∈ [s.referenceFile, s.exportFile]) :
      Path.DirectlyBelow directory (Path.join directory name) := by
    refine ⟨name, ?_, rfl⟩
    simp only [List.mem_cons, List.not_mem_nil, or_false] at member
    rcases member with rfl | rfl
    · exact Settings.isComponent_referenceFile plainPrefix
    · exact Settings.isComponent_of_isPlainFileName plainExport
  have paths : done.map Output.path =
      (((s.platforms.take done.length).map s.bindingFile ++
        [s.referenceFile, s.exportFile].take (done.length - s.platforms.length)).map
          (Path.join directory)) := by
    conv => lhs; rw [List.prefix_iff_eq_take.mp isPrefix]
    rw [List.map_take, paths_outputsOf, ← List.map_take, Settings.outputNames, List.take_append]
    simp
  have byPath : (∀ output ∈ done, Path.DirectlyBelow directory output.path) ↔
      ∀ path ∈ done.map Output.path, Path.DirectlyBelow directory path := by
    simp
  rw [byPath, paths]
  constructor
  · intro directly p member
    exact (binding p).mp (directly _ (List.mem_map_of_mem (List.mem_append_left _
      (List.mem_map_of_mem member))))
  · intro slashless path member
    obtain ⟨name, nameMem, rfl⟩ := List.mem_map.mp member
    rcases List.mem_append.mp nameMem with isBinding | isOther
    · obtain ⟨p, inPlatforms, rfl⟩ := List.mem_map.mp isBinding
      exact (binding p).mpr (slashless p inPlatforms)
    · exact others name (List.mem_of_mem_take isOther)

/-- Writing the export list alone always stays in the directory.  A run stays in the directory, with
single components for the paths of all files that it wrote, exactly when no platform among the
written ones has a slash in its id. -/
theorem run_staysInside_iff (s : Settings) (prototypes : List Prototype) (directory : String)
    (session : Session) (accepted : s.validate = .ok ()) :
    StaysInside session.current directory session.store
        ((runExports s prototypes directory : InStore _).run session).2.store ∧
      ∃ files done result,
        outputs s prototypes directory = .ok files ∧
        Outcome session directory files done result
          ((run s prototypes directory : InStore _).run session).2.store ∧
        ((run s prototypes directory : InStore _).run session).1 =
          result.map (Report.mk prototypes.length) ∧
        ((∀ output ∈ done, Path.DirectlyBelow directory output.path) ∧
            StaysInside session.current directory session.store
              ((run s prototypes directory : InStore _).run session).2.store ↔
          ∀ p ∈ s.platforms.take done.length, '/' ∉ p.id.toList) := by
  constructor
  · obtain ⟨done, result, outcome, -⟩ := outcome_runExports accepted prototypes directory session
    refine outcome.staysInside fun output member => ?_
    have isExport := outcome.isPrefix.subset member
    simp only [outputsOf, List.map_cons, List.map_nil, List.mem_singleton] at isExport
    have plainExport := (Settings.accepted_iff.mp accepted).2.2.2.2
    exact ⟨s.exportFile, Settings.isComponent_of_isPlainFileName plainExport,
      congrArg Output.path isExport⟩
  · obtain ⟨done, result, outcome, reported⟩ :=
      outcome_run accepted prototypes directory session
    have byId := directlyBelow_outputs_iff accepted prototypes directory outcome.isPrefix
    refine ⟨_, done, result, outputs_eq s prototypes directory, outcome, reported, ?_, ?_⟩
    · rintro ⟨directly, -⟩
      exact byId.mp directly
    · intro slashless
      have directly := byId.mpr slashless
      exact ⟨directly, outcome.staysInside directly⟩

/-- The standard settings stay in their directory also where their run stops early. -/
theorem run_standard_staysInside :
    Settings.standard.validate = .ok () ∧
      StaysInside [] "out" blockedStore
        ((run Settings.standard [⟨"f", ["int a"], "int"⟩] "out" : InStore _).run
          ⟨blockedStore, [], []⟩).2.store := by
  have accepted : Settings.standard.validate = .ok () := rfl
  have slashless : ∀ p ∈ Settings.standard.platforms, '/' ∉ p.id.toList := by decide
  obtain ⟨-, files, done, result, -, -, -, exactly⟩ :=
    run_staysInside_iff Settings.standard [⟨"f", ["int a"], "int"⟩] "out" ⟨blockedStore, [], []⟩
      accepted
  exact ⟨accepted, (exactly.mpr fun p member => slashless p (List.mem_of_mem_take member)).2⟩

/-- Settings with a platform whose id goes up. -/
def escapingSettings : Settings :=
  { Settings.standard with
    platforms := [⟨"x/../../escaped", "LINUX_X64", .linux, true, "Linux64"⟩] }

/-- A store whose directory `out` holds a directory that the id goes up from. -/
def escapingStore : Store :=
  ⟨[(["out"], .directory), (["out", "NativeCalls.x"], .directory)]⟩

/-- An id that goes up puts a binding file next to the directory of the run. -/
theorem run_escapingSettings_leaves_directory :
    escapingSettings.validate = .ok () ∧ escapingSettings.platforms.issues = [] ∧
      ∃ report final bytes,
        (run escapingSettings [] "out" : InStore _).run ⟨escapingStore, [], []⟩ =
          (.ok report, final) ∧
        final.store.find? ["escaped.cs"] = some (.file bytes) ∧
        ¬ StaysInside [] "out" escapingStore final.store := by
  have accepted : escapingSettings.validate = .ok () := rfl
  have created : (Workspace.createDirectories "out" : InStore _).run ⟨escapingStore, [], []⟩ =
      (.ok (), ⟨escapingStore, [], []⟩) := rfl
  obtain ⟨final, ran, written⟩ :=
    run_of_writeOutputs accepted [] created (by decide +kernel)
  have escaped : final.store.find? ["escaped.cs"] =
      some (.file (SourceFile.bindingText escapingSettings
        ⟨"x/../../escaped", "LINUX_X64", .linux, true, "Linux64"⟩ []).toUTF8) :=
    @find?_of_writeOutputs_of_last [] _ _ [] _ _ written (by decide +kernel)
  refine ⟨accepted, rfl, _, final, _, ran, escaped, ?_⟩
  intro inside
  have changed : final.store.find? ["escaped.cs"] ≠ escapingStore.find? ["escaped.cs"] := by
    rw [escaped]
    exact Option.some_ne_none _
  rcases inside _ changed with ⟨component, _, _, _, place, _⟩ | ⟨_, isDirectory, _⟩
  · have isOut : target [] "out" = ["out"] := rfl
    rw [isOut] at place
    simp at place
  · rw [escaped] at isDirectory
    cases isDirectory

end Generation
end BindingGen
