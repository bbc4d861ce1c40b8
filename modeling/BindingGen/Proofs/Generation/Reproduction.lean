import BindingGen.Proofs.Files.Standing
import BindingGen.Proofs.Generation.Kept
import BindingGen.Proofs.Generation.WriteOrder
import Mathlib.Data.List.Induction

/-!
# Runs that are made again

What a run leaves does not depend on what earlier runs have left.  Two runs that succeed from
different stores agree at the place of every output, since the last output that leads there
decides.  When a run is made again on its own result, the directory stands and every output is
written over a file.  Such a write replaces an entry of the store in its place, and all the
entries already are what the outputs make of them.
-/

namespace BindingGen
namespace Generation

open Store InStore

variable {current : Place}

/-! ## The same outputs on two stores -/

/-- Two stores to which the same outputs were written agree wherever they agreed before and at
the place of every output. -/
theorem find?_eq_of_writeOutputs {first second firstFinal secondFinal : Store}
    {files : List Output} (written : writeOutputs current first files = .ok firstFinal)
    (alsoWritten : writeOutputs current second files = .ok secondFinal) {place : Place}
    (agree : first.find? place = second.find? place ∨
      ∃ output ∈ files, target current output.path = place) :
    firstFinal.find? place = secondFinal.find? place := by
  induction files generalizing first second with
  | nil =>
      cases written
      cases alsoWritten
      simpa using agree
  | cons output rest ih =>
      obtain ⟨next, firstly, others⟩ := writeOutputs_cons_eq_ok_iff.mp written
      obtain ⟨alsoNext, alsoFirstly, alsoOthers⟩ := writeOutputs_cons_eq_ok_iff.mp alsoWritten
      refine ih others alsoOthers ?_
      rw [find?_of_write firstly, find?_of_write alsoFirstly]
      by_cases atTarget : place = target current output.path
      · simp [atTarget]
      · rcases agree with same | ⟨later, member, same⟩
        · simp [same]
        · rcases List.mem_cons.mp member with rfl | inRest
          · exact absurd same.symm atTarget
          · exact .inr ⟨later, inRest, same⟩

/-- At the place of every output that was written stands the file of one that leads there. -/
theorem exists_find?_of_mem_writeOutputs {store final : Store} {files : List Output}
    (written : writeOutputs current store files = .ok final) {output : Output}
    (member : output ∈ files) :
    ∃ standing ∈ files,
      final.find? (target current output.path) = some (.file standing.bytes) := by
  obtain ⟨before, after, rfl⟩ := List.append_of_mem member
  obtain ⟨between, -, others⟩ := writeOutputs_append_eq_ok_iff.mp written
  obtain ⟨next, first, later⟩ := writeOutputs_cons_eq_ok_iff.mp others
  rcases find?_of_writeOutputs later (target current output.path) with
    unchanged | ⟨other, otherMem, -, found⟩
  · rw [unchanged, find?_of_write first, if_pos rfl]
    exact ⟨output, member, rfl⟩
  · exact ⟨other, List.mem_append_right _ (List.mem_cons_of_mem _ otherMem), found⟩

/-! ## Writing over files -/

/-- What an entry of a store becomes when an output is written over the file of that entry. -/
def Output.over (current : Place) (entry : Place × Node) (output : Output) : Place × Node :=
  if entry.1 == target current output.path then (target current output.path, .file output.bytes)
  else entry

/-- What an entry of a store becomes when outputs are written over files. -/
def overwritten (current : Place) (files : List Output) (entry : Place × Node) : Place × Node :=
  files.foldl (Output.over current) entry

@[simp]
theorem fst_over (entry : Place × Node) (output : Output) :
    (Output.over current entry output).1 = entry.1 := by
  unfold Output.over
  split
  next same => exact (eq_of_beq same).symm
  next => rfl

@[simp]
theorem fst_overwritten (files : List Output) (entry : Place × Node) :
    (overwritten current files entry).1 = entry.1 := by
  induction files generalizing entry with
  | nil => rfl
  | cons output rest ih => exact (ih _).trans (fst_over entry output)

/-- An output that can be written over the file that is there. -/
structure Output.Overwrites (current : Place) (store : Store) (output : Output) : Prop where
  noSlash : Path.endsInSlash output.path = false
  located : store.locate current output.path = .ok (target current output.path)
  present : ∃ contents, store.find? (target current output.path) = some (.file contents)

theorem Output.Overwrites.write {store : Store} {output : Output}
    (overwrites : output.Overwrites current store) :
    store.write current output.path output.bytes =
      .ok ⟨store.nodes.map fun entry => Output.over current entry output⟩ := by
  obtain ⟨contents, found⟩ := overwrites.present
  have noDirectory : store.find? (target current output.path) ≠ some .directory := by
    rw [found]
    simp
  refine write_eq_ok_iff.mpr ⟨overwrites.noSlash, overwrites.located, noDirectory, ?_⟩
  rw [insert_of_find?_eq_some (ne_root_of_find?_ne noDirectory) found]
  rfl

theorem Output.Overwrites.of_write {store after : Store} {output other : Output}
    (overwrites : output.Overwrites current store)
    (written : store.write current other.path other.bytes = .ok after) :
    output.Overwrites current after where
  noSlash := overwrites.noSlash
  located := locate_of_keepsDirectories (keepsDirectories_of_write written) overwrites.located
  present := by
    rw [find?_of_write written]
    split
    · exact ⟨other.bytes, rfl⟩
    · exact overwrites.present

theorem writeOutputs_of_overwrites {store : Store} {files : List Output}
    (overwrites : ∀ output ∈ files, output.Overwrites current store) :
    writeOutputs current store files = .ok ⟨store.nodes.map (overwritten current files)⟩ := by
  induction files generalizing store with
  | nil =>
      have same : store.nodes.map (overwritten current []) = store.nodes :=
        List.map_id store.nodes
      rw [same]
      rfl
  | cons output rest ih =>
      have first := (overwrites output List.mem_cons_self).write
      refine writeOutputs_cons_eq_ok_iff.mpr ⟨_, first, ?_⟩
      rw [ih fun other member => (overwrites other (List.mem_cons_of_mem _ member)).of_write first,
        List.map_map]
      rfl

theorem overwrites_of_mem_writeOutputs {store final : Store} {files : List Output}
    (written : writeOutputs current store files = .ok final) {output : Output}
    (member : output ∈ files) : output.Overwrites current final where
  noSlash := by
    obtain ⟨before, after, rfl⟩ := List.append_of_mem member
    obtain ⟨between, -, others⟩ := writeOutputs_append_eq_ok_iff.mp written
    obtain ⟨next, first, -⟩ := writeOutputs_cons_eq_ok_iff.mp others
    exact (write_eq_ok_iff.mp first).1
  located := locate_of_mem_writeOutputs written member
  present := by
    obtain ⟨standing, -, found⟩ := exists_find?_of_mem_writeOutputs written member
    exact ⟨standing.bytes, found⟩

/-! ## The entries that outputs leave -/

/-- The entries that outputs leave are what the outputs make of them once more. -/
theorem overwritten_of_mem_writeOutputs {store final : Store} {files : List Output}
    (written : writeOutputs current store files = .ok final) {entry : Place × Node}
    (member : entry ∈ final.nodes) : overwritten current files entry = entry := by
  -- The last output decides about its own entry, so the induction takes outputs off the end.
  induction files using List.reverseRecOn generalizing final with
  | nil => rfl
  | append_singleton before output ih =>
      obtain ⟨between, earlier, others⟩ := writeOutputs_append_eq_ok_iff.mp written
      obtain ⟨next, last, nothing⟩ := writeOutputs_cons_eq_ok_iff.mp others
      cases nothing
      obtain ⟨-, -, -, rfl⟩ := write_eq_ok_iff.mp last
      have apart : overwritten current (before ++ [output]) entry =
          Output.over current (overwritten current before entry) output :=
        List.foldl_append ..
      rw [apart]
      rcases eq_or_mem_of_mem_insert member with rfl | ⟨old, elsewhere⟩
      · simp [Output.over]
      · rw [ih earlier old]
        simp [Output.over, elsewhere]

/-- Writing outputs again to the store that they have left changes nothing. -/
theorem writeOutputs_again {store final : Store} {files : List Output}
    (written : writeOutputs current store files = .ok final) :
    writeOutputs current final files = .ok final := by
  rw [writeOutputs_of_overwrites fun output member =>
    overwrites_of_mem_writeOutputs written member]
  have same : final.nodes.map (overwritten current files) = final.nodes.map id :=
    List.map_congr_left fun entry member => overwritten_of_mem_writeOutputs written member
  rw [same, List.map_id]

/-! ## Runs -/

theorem accepted_of_run {s : Settings} {prototypes : List Prototype} {directory : String}
    {session final : Session} {report : Report}
    (ran : (run s prototypes directory : InStore _).run session = (.ok report, final)) :
    s.validate = .ok () := by
  cases checked : s.validate with
  | ok => rfl
  | error fault =>
      rw [run_of_refused checked] at ran
      cases ran

/-- A run that succeeded can be made again on its own result, which it leaves as it is. -/
theorem run_again {s : Settings} {prototypes : List Prototype} {directory : String}
    {session final : Session} {report : Report}
    (ran : (run s prototypes directory : InStore _).run session = (.ok report, final)) :
    ∃ again, (run s prototypes directory : InStore _).run final = (.ok report, again) ∧
      again.store = final.store ∧ again.current = final.current := by
  have accepted := accepted_of_run ran
  have sameCurrent := keeps_run Session.current s prototypes directory session
  rw [ran] at sameCurrent
  obtain ⟨rfl, prepared, created, written⟩ := writeOutputs_of_run accepted ran
  have stands := Workspace.run_createDirectories_again created
    (keepsDirectories_of_writeOutputs written) sameCurrent
  have rewritten := writeOutputs_again written
  rw [← sameCurrent] at rewritten
  obtain ⟨again, ranAgain, left⟩ :=
    run_of_writeOutputs accepted prototypes stands (by rw [rewritten]; rfl)
  have stillCurrent := keeps_run Session.current s prototypes directory final
  rw [ranAgain] at stillCurrent
  rw [rewritten] at left
  exact ⟨again, ranAgain, (Except.ok.inj left).symm, stillCurrent⟩

/-- Runs with the same arguments leave the bytes of the same output in each of their files. -/
theorem read_eq_of_runs {s : Settings} {prototypes : List Prototype} {directory : String}
    {session final other otherFinal : Session} {report otherReport : Report}
    (ran : (run s prototypes directory : InStore _).run session = (.ok report, final))
    (sameCurrent : other.current = session.current)
    (otherRan : (run s prototypes directory : InStore _).run other =
      (.ok otherReport, otherFinal)) :
    ∀ file ∈ report.files, ∃ output ∈ outputsOf directory (sources s prototypes),
      final.store.read session.current file.path = .ok output.bytes ∧
        otherFinal.store.read session.current file.path = .ok output.bytes := by
  have accepted := accepted_of_run ran
  obtain ⟨rfl, prepared, -, written⟩ := writeOutputs_of_run accepted ran
  obtain ⟨rfl, otherPrepared, -, otherWritten⟩ := writeOutputs_of_run accepted otherRan
  rw [sameCurrent] at otherWritten
  intro file member
  obtain ⟨output, outputMem, rfl⟩ := List.mem_map.mp member
  obtain ⟨standing, standingMem, found⟩ := exists_find?_of_mem_writeOutputs written outputMem
  have agree := find?_eq_of_writeOutputs written otherWritten (.inr ⟨output, outputMem, rfl⟩)
  refine ⟨standing, standingMem, ?_, ?_⟩
  · exact read_eq_ok_iff.mpr ⟨locate_of_mem_writeOutputs written outputMem, found⟩
  · exact read_eq_ok_iff.mpr
      ⟨locate_of_mem_writeOutputs otherWritten outputMem, agree ▸ found⟩

/-- A run that succeeded has reported its outputs, and it reports the same and changes no file
when it is made again.  Every run that succeeds with the same arguments, from whatever store,
reports the same files and leaves the same bytes in each of them. -/
theorem run_is_reproducible (s : Settings) (prototypes : List Prototype) (directory : String)
    (session final : Session) (report : Report)
    (ran : (run s prototypes directory : InStore _).run session = (.ok report, final)) :
    ∃ files, outputs s prototypes directory = .ok files ∧
      report = ⟨prototypes.length, files.map Output.written⟩ ∧
      (∃ again, (run s prototypes directory : InStore _).run final = (.ok report, again) ∧
        again.store = final.store ∧ again.current = final.current) ∧
      ∀ other otherFinal otherReport, other.current = session.current →
        (run s prototypes directory : InStore _).run other = (.ok otherReport, otherFinal) →
          otherReport = report ∧
          ∀ file ∈ report.files, ∃ output ∈ files,
            final.store.read session.current file.path = .ok output.bytes ∧
              otherFinal.store.read session.current file.path = .ok output.bytes := by
  have reported := (writeOutputs_of_run (accepted_of_run ran) ran).1
  refine ⟨_, outputs_eq s prototypes directory, reported, run_again ran, ?_⟩
  intro other otherFinal otherReport sameCurrent otherRan
  have alsoReported := (writeOutputs_of_run (accepted_of_run otherRan) otherRan).1
  exact ⟨alsoReported.trans reported.symm, read_eq_of_runs ran sameCurrent otherRan⟩

/-- Settings that give the export list the name of the reference file. -/
def overlappingSettings : Settings :=
  { Settings.standard with exportFile := "NativeCalls.ref.cs", platforms := [] }

/-- A store that holds a longer file of that name and one that no run writes. -/
def leftoverStore : Store :=
  ⟨[(["out"], .directory), (["out", "NativeCalls.ref.cs"], .file "an earlier text\n".toUTF8),
    (["out", "notes"], .file "kept\n".toUTF8)]⟩

/-- The two files of one name are resolved alike on an empty store and on leftovers. -/
theorem run_overlappingSettings_is_reproducible :
    ∃ report final leftFinal,
      (run overlappingSettings [⟨"f", ["int a"], "int"⟩] "out" : InStore _).run
          ⟨Store.empty, [], []⟩ = (.ok report, final) ∧
      (run overlappingSettings [⟨"f", ["int a"], "int"⟩] "out" : InStore _).run
          ⟨leftoverStore, [], []⟩ = (.ok report, leftFinal) ∧
      (∃ again, (run overlappingSettings [⟨"f", ["int a"], "int"⟩] "out" : InStore _).run final =
          (.ok report, again) ∧ again.store = final.store) ∧
      ∀ file ∈ report.files, ∃ bytes,
        final.store.read [] file.path = .ok bytes ∧
          leftFinal.store.read [] file.path = .ok bytes := by
  have accepted : overlappingSettings.validate = .ok () := rfl
  have created : (Workspace.createDirectories "out" : InStore _).run ⟨Store.empty, [], []⟩ =
      (.ok (), ⟨⟨[(["out"], .directory)]⟩, [], []⟩) := rfl
  have found : (Workspace.createDirectories "out" : InStore _).run ⟨leftoverStore, [], []⟩ =
      (.ok (), ⟨leftoverStore, [], []⟩) := rfl
  obtain ⟨final, ran, -⟩ :=
    run_of_writeOutputs accepted [⟨"f", ["int a"], "int"⟩] created (by decide +kernel)
  obtain ⟨leftFinal, leftRan, -⟩ :=
    run_of_writeOutputs accepted [⟨"f", ["int a"], "int"⟩] found (by decide +kernel)
  obtain ⟨files, -, -, ⟨again, ranAgain, same, -⟩, independent⟩ :=
    run_is_reproducible overlappingSettings [⟨"f", ["int a"], "int"⟩] "out" _ final _ ran
  obtain ⟨-, alike⟩ := independent ⟨leftoverStore, [], []⟩ leftFinal _ rfl leftRan
  refine ⟨_, final, leftFinal, ran, leftRan, ⟨again, ranAgain, same⟩, ?_⟩
  intro file member
  obtain ⟨output, -, read, leftRead⟩ := alike file member
  exact ⟨output.bytes, read, leftRead⟩

end Generation
end BindingGen
