import BindingGen.Proofs.Generation.WriteOrder
import BindingGen.Proofs.Source.Distinct

/-!
# Outputs that survive their run

Two outputs of one run may lead to the same place, and then the later one replaces the earlier
while both are reported.  Since the texts of all outputs differ, this is also the only way in
which a reported file can be lost: a successful run leaves every file as reported exactly when the
places of its outputs differ, and, while no id holds a slash, exactly when their names differ.
-/

namespace BindingGen
namespace Generation

open Store

/-- The places that outputs lead to, in the order of writing. -/
def places (current : Place) (files : List Output) : List Place :=
  files.map fun output => target current output.path

/-- Every output can be read back from its path. -/
def Intact (current : Place) (store : Store) (files : List Output) : Prop :=
  ∀ output ∈ files, store.read current output.path = .ok output.bytes

theorem intact_of_nodup_places {current : Place} {before after : Store} {files : List Output}
    (written : writeOutputs current before files = .ok after)
    (apart : (places current files).Nodup) : Intact current after files := by
  intro output member
  have located := locate_of_mem_writeOutputs written member
  obtain ⟨earlier, later, rfl⟩ := List.append_of_mem member
  have last : ∀ other ∈ later, target current other.path ≠ target current output.path := by
    intro other otherMem same
    unfold places at apart
    rw [List.map_append, List.map_cons, List.nodup_append] at apart
    have notLater := (List.nodup_cons.mp apart.2.1).1
    exact notLater (List.mem_map.mpr ⟨other, otherMem, same⟩)
  exact read_eq_ok_iff.mpr ⟨located, find?_of_writeOutputs_of_last written last⟩

/-- The bytes of intact outputs are a function of their places. -/
theorem nodup_places_of_intact {current : Place} {store : Store} {files : List Output}
    (intact : Intact current store files) (distinct : (files.map Output.bytes).Nodup) :
    (places current files).Nodup := by
  refine nodup_map_of_determines distinct fun output member other otherMem same => ?_
  have bytes := (read_eq_ok_iff.mp (intact output member)).2
  have otherBytes := (read_eq_ok_iff.mp (intact other otherMem)).2
  rw [same, otherBytes] at bytes
  exact (Node.file.inj (Option.some.inj bytes)).symm

theorem nodup_bytes_outputsOf {s : Settings} (accepted : s.validate = .ok ())
    (valid : s.platforms.Valid) (prototypes : List Prototype) (directory : String) :
    ((outputsOf directory (sources s prototypes)).map Output.bytes).Nodup := by
  have texts : ((sources s prototypes).map fun file => file.2.contents).Nodup := by
    simpa [sources, Function.comp_def] using SourceFile.nodup_texts accepted valid prototypes
  unfold outputsOf
  rw [List.map_map]
  exact nodup_map_of_determines texts fun _ _ _ _ => String.toByteArray_inj.mp

@[simp]
theorem paths_outputsOf (s : Settings) (prototypes : List Prototype) (directory : String) :
    (outputsOf directory (sources s prototypes)).map Output.path =
      s.outputNames.map (Path.join directory) := by
  simp [outputsOf, sources, Output.ofSource, Settings.outputNames, Function.comp_def]

theorem isComponent_of_mem_outputNames {s : Settings} (accepted : s.validate = .ok ())
    (slashless : ∀ p ∈ s.platforms, '/' ∉ p.id.toList) :
    ∀ name ∈ s.outputNames, Path.IsComponent name := by
  obtain ⟨-, -, -, plainPrefix, plainExport⟩ := Settings.accepted_iff.mp accepted
  intro name member
  simp only [Settings.outputNames, List.mem_append, List.mem_map, List.mem_cons,
    List.not_mem_nil, or_false] at member
  rcases member with ⟨p, inPlatforms, rfl⟩ | rfl | rfl
  · exact (Settings.isComponent_bindingFile_iff plainPrefix).mpr (slashless p inPlatforms)
  · exact Settings.isComponent_referenceFile plainPrefix
  · exact Settings.isComponent_of_isPlainFileName plainExport

/-- Where names are components, places differ as names do. -/
theorem nodup_places_iff {s : Settings} (accepted : s.validate = .ok ())
    (idsApart : (s.platforms.map Platform.id).Nodup)
    (slashless : ∀ p ∈ s.platforms, '/' ∉ p.id.toList) (current : Place)
    (prototypes : List Prototype) (directory : String) :
    (places current (outputsOf directory (sources s prototypes))).Nodup ↔ s.NamesApart := by
  have components := isComponent_of_mem_outputNames accepted slashless
  have byName : places current (outputsOf directory (sources s prototypes)) =
      s.outputNames.map fun name => target current directory ++ [name] := by
    have flat : places current (outputsOf directory (sources s prototypes)) =
        ((outputsOf directory (sources s prototypes)).map Output.path).map (target current) := by
      rw [List.map_map]
      rfl
    rw [flat, paths_outputsOf, List.map_map]
    exact List.map_congr_left fun name member =>
      target_join_component (components name member) current directory
  rw [byName, ← Settings.nodup_outputNames_iff idsApart]
  unfold List.Nodup
  rw [List.pairwise_map]
  simp

/-- A successful run leaves all of its files at different paths and with the reported digests
exactly when no two outputs lead to the same place. -/
theorem run_keeps_outputs_iff (s : Settings) (prototypes : List Prototype) (directory : String)
    (session final : Session) (report : Report) (accepted : s.validate = .ok ())
    (valid : s.platforms.issues = [])
    (ran : (run s prototypes directory : InStore _).run session = (.ok report, final)) :
    ∃ files, outputs s prototypes directory = .ok files ∧
      report.files = files.map Output.written ∧
      ((places session.current files).Nodup ↔
        (report.files.map WrittenFile.path).Nodup ∧
          Intact session.current final.store files) ∧
      ((places session.current files).Nodup →
        ∀ file ∈ report.files, ∃ bytes,
          final.store.read session.current file.path = .ok bytes ∧
            Sha256.hex bytes = file.sha256) ∧
      ((∀ p ∈ s.platforms, '/' ∉ p.id.toList) →
        ((places session.current files).Nodup ↔ s.NamesApart)) := by
  have isValid := Catalog.issues_eq_nil_iff.mp valid
  obtain ⟨rfl, prepared, -, written⟩ := writeOutputs_of_run accepted ran
  refine ⟨_, outputs_eq s prototypes directory, rfl, ⟨?_, ?_⟩, ?_, ?_⟩
  · intro apart
    refine ⟨?_, intact_of_nodup_places written apart⟩
    rw [List.map_map]
    exact nodup_map_of_determines apart fun _ _ _ _ => congrArg (target session.current)
  · rintro ⟨-, intact⟩
    exact nodup_places_of_intact intact
      (nodup_bytes_outputsOf accepted isValid prototypes directory)
  · intro apart file member
    obtain ⟨output, outputMem, rfl⟩ := List.mem_map.mp member
    exact ⟨output.bytes, intact_of_nodup_places written apart output outputMem, rfl⟩
  · intro slashless
    exact nodup_places_iff accepted isValid.idsApart slashless session.current prototypes
      directory

/-- Settings whose names are close to each other but different. -/
def apartSettings : Settings :=
  { Settings.standard with
    exportFile := "NativeCalls.ref"
    platforms := [⟨"ref.x64", "LINUX_X64", .linux, true, "Linux64"⟩] }

theorem run_apartSettings_keeps_outputs :
    apartSettings.validate = .ok () ∧ apartSettings.platforms.issues = [] ∧
      ∃ report final,
        (run apartSettings [⟨"f", ["int a"], "int"⟩] "out" : InStore _).run
          ⟨Store.empty, [], []⟩ = (.ok report, final) ∧
        ∀ file ∈ report.files, ∃ bytes,
          final.store.read [] file.path = .ok bytes ∧ Sha256.hex bytes = file.sha256 := by
  have accepted : apartSettings.validate = .ok () := rfl
  have valid : apartSettings.platforms.issues = [] := rfl
  have created : (Workspace.createDirectories "out" : InStore _).run ⟨Store.empty, [], []⟩ =
      (.ok (), ⟨⟨[(["out"], .directory)]⟩, [], []⟩) := rfl
  obtain ⟨final, ran, -⟩ :=
    run_of_writeOutputs accepted [⟨"f", ["int a"], "int"⟩] created (by decide +kernel)
  obtain ⟨files, -, -, -, intact, byNames⟩ := run_keeps_outputs_iff apartSettings
    [⟨"f", ["int a"], "int"⟩] "out" _ final _ accepted valid ran
  have slashless : ∀ p ∈ apartSettings.platforms, '/' ∉ p.id.toList := by decide
  have apart : apartSettings.NamesApart := ⟨by decide, by decide, by decide⟩
  exact ⟨accepted, valid, _, final, ran, intact ((byNames slashless).mpr apart)⟩

/-- Settings whose only platform is called like the reference file. -/
def collidingSettings : Settings :=
  { Settings.standard with platforms := [⟨"ref", "LINUX_X64", .linux, true, "Linux64"⟩] }

/-- A platform with the id `ref` loses its binding file to the reference file of the same run,
which is reported as a success with two files of one path. -/
theorem run_collidingSettings_loses_output :
    collidingSettings.validate = .ok () ∧ collidingSettings.platforms.issues = [] ∧
      ∃ report final files,
        (run collidingSettings [] "out" : InStore _).run ⟨Store.empty, [], []⟩ =
          (.ok report, final) ∧
        outputs collidingSettings [] "out" = .ok files ∧
        report.files = files.map Output.written ∧
        ¬ (report.files.map WrittenFile.path).Nodup ∧ ¬ Intact [] final.store files := by
  have created : (Workspace.createDirectories "out" : InStore _).run ⟨Store.empty, [], []⟩ =
      (.ok (), ⟨⟨[(["out"], .directory)]⟩, [], []⟩) := rfl
  have accepted : collidingSettings.validate = .ok () := rfl
  have valid : collidingSettings.platforms.issues = [] := rfl
  obtain ⟨final, ran, -⟩ := run_of_writeOutputs accepted [] created (by decide +kernel)
  refine ⟨accepted, valid, _, final, _, ran, outputs_eq collidingSettings [] "out", rfl, ?_, ?_⟩
  · have paths : (outputsOf "out" (sources collidingSettings [])).map Output.path =
        ["out/NativeCalls.ref.cs", "out/NativeCalls.ref.cs", "out/linkcommands"] := rfl
    rw [List.map_map]
    change ¬ ((outputsOf "out" (sources collidingSettings [])).map Output.path).Nodup
    rw [paths]
    decide
  · intro intact
    have apart := nodup_places_of_intact intact (nodup_bytes_outputsOf accepted
      (Catalog.issues_eq_nil_iff.mp valid) [] "out")
    have same : places [] (outputsOf "out" (sources collidingSettings [])) =
        [["out", "NativeCalls.ref.cs"], ["out", "NativeCalls.ref.cs"],
          ["out", "linkcommands"]] := rfl
    rw [same] at apart
    revert apart
    decide

end Generation
end BindingGen
