import BindingGen.Generation
import BindingGen.Proofs.Files.Updates
import BindingGen.Proofs.Source.Rendering

/-!
# The outputs of a run

The outputs of a run are what it is going to write: a path, a role and the bytes for every
binding file in the order of the platforms, for the reference file and for the export list.  They
are emitted before any of them is written.  Writing them in order puts the bytes of each at the
place of its path, where they stay unless a later output leads to the same place.
-/

namespace BindingGen
namespace Generation

open Store

/-- A file that a run is to write. -/
structure Output where
  path : String
  role : FileRole
  bytes : ByteArray

def Output.ofSource (directory : String) (role : FileRole) (file : SourceFile) : Output :=
  ⟨Path.join directory file.name, role, file.contents.toUTF8⟩

/-- What a run reports about an output once it is written. -/
def Output.written (output : Output) : WrittenFile :=
  ⟨output.path, output.role, Sha256.hex output.bytes⟩

/-- The outputs of a run, all emitted before any of them is written. -/
def outputs (s : Settings) (prototypes : List Prototype) (directory : String) :
    Except SourceFile.Fault (List Output) := do
  let bindings ← s.platforms.mapM fun p => do
    return Output.ofSource directory (.binding p.id) (← SourceFile.binding s p prototypes)
  let reference ← SourceFile.reference s prototypes
  let exports ← SourceFile.exportList s prototypes
  return bindings ++
    [Output.ofSource directory .reference reference, Output.ofSource directory .exportList exports]

/-- The files of a run with their roles. -/
def sources (s : Settings) (prototypes : List Prototype) : List (FileRole × SourceFile) :=
  s.platforms.map (fun p =>
      (FileRole.binding p.id, ⟨s.bindingFile p, SourceFile.bindingText s p prototypes⟩)) ++
    [(.reference, ⟨s.referenceFile, SourceFile.referenceText s prototypes⟩),
      (.exportList, ⟨s.exportFile, SourceFile.exportText s prototypes⟩)]

/-- The outputs that files become in a directory. -/
def outputsOf (directory : String) (files : List (FileRole × SourceFile)) : List Output :=
  files.map fun file => Output.ofSource directory file.1 file.2

@[simp]
theorem plan_eq (s : Settings) (prototypes : List Prototype) :
    plan s prototypes = (sources s prototypes).map fun file => (file.1, .ok file.2) := by
  simp [plan, sources]

@[simp]
theorem outputs_eq (s : Settings) (prototypes : List Prototype) (directory : String) :
    outputs s prototypes directory = .ok (outputsOf directory (sources s prototypes)) := by
  have bindings : (s.platforms.mapM fun p => do
      return Output.ofSource directory (.binding p.id) (← SourceFile.binding s p prototypes)) =
      (.ok (s.platforms.map fun p => Output.ofSource directory (.binding p.id)
        ⟨s.bindingFile p, SourceFile.bindingText s p prototypes⟩) : Except SourceFile.Fault _) := by
    simp only [SourceFile.binding_eq]
    exact List.mapM_pure
  unfold outputs
  rw [bindings, SourceFile.reference_eq, SourceFile.exportList_eq]
  simp [outputsOf, sources, Function.comp_def]

/-! ## Writing outputs in order -/

/-- Writes outputs one after another, up to the first that cannot be written. -/
def writeOutputs (current : Place) (store : Store) (files : List Output) :
    Except FileFault Store :=
  files.foldlM (fun store output => store.write current output.path output.bytes) store

variable {current : Place}

@[simp]
theorem writeOutputs_append_eq_ok_iff {store final : Store} {first second : List Output} :
    writeOutputs current store (first ++ second) = .ok final ↔
      ∃ between, writeOutputs current store first = .ok between ∧
        writeOutputs current between second = .ok final := by
  unfold writeOutputs
  rw [List.foldlM_append]
  cases first.foldlM (fun store output => store.write current output.path output.bytes) store <;>
    simp

@[simp]
theorem writeOutputs_cons_eq_ok_iff {store final : Store} {output : Output}
    {rest : List Output} :
    writeOutputs current store (output :: rest) = .ok final ↔
      ∃ between, store.write current output.path output.bytes = .ok between ∧
        writeOutputs current between rest = .ok final := by
  unfold writeOutputs
  rw [List.foldlM_cons]
  cases store.write current output.path output.bytes <;> simp

theorem keepsDirectories_of_writeOutputs {store final : Store} {files : List Output}
    (written : writeOutputs current store files = .ok final) :
    KeepsDirectories store final := by
  induction files generalizing store with
  | nil =>
      cases written
      exact .refl _
  | cons output rest ih =>
      obtain ⟨between, first, others⟩ := writeOutputs_cons_eq_ok_iff.mp written
      exact (keepsDirectories_of_write first).trans (ih others)

/-- The path of every written output leads to its place afterwards. -/
theorem locate_of_mem_writeOutputs {store final : Store} {files : List Output}
    (written : writeOutputs current store files = .ok final) {output : Output}
    (member : output ∈ files) :
    final.locate current output.path = .ok (target current output.path) := by
  obtain ⟨before, after, rfl⟩ := List.append_of_mem member
  obtain ⟨between, -, others⟩ := writeOutputs_append_eq_ok_iff.mp written
  obtain ⟨next, first, later⟩ := writeOutputs_cons_eq_ok_iff.mp others
  exact locate_of_keepsDirectories (keepsDirectories_of_writeOutputs later)
    (locate_of_write first)

/-- Writing outputs leaves every place alone that none of them leads to. -/
theorem find?_of_writeOutputs_of_not_target {store final : Store} {files : List Output}
    (written : writeOutputs current store files = .ok final) {place : Place}
    (untouched : ∀ output ∈ files, target current output.path ≠ place) :
    final.find? place = store.find? place := by
  induction files generalizing store with
  | nil =>
      cases written
      rfl
  | cons output rest ih =>
      obtain ⟨between, first, others⟩ := writeOutputs_cons_eq_ok_iff.mp written
      have elsewhere : place ≠ target current output.path :=
        (untouched output List.mem_cons_self).symm
      rw [ih others fun later member => untouched later (List.mem_cons_of_mem output member),
        find?_of_write first, if_neg elsewhere]

/-- The last output that leads to a place decides what is there. -/
theorem find?_of_writeOutputs_of_last {store final : Store} {before after : List Output}
    {output : Output}
    (written : writeOutputs current store (before ++ output :: after) = .ok final)
    (last : ∀ later ∈ after, target current later.path ≠ target current output.path) :
    final.find? (target current output.path) = some (.file output.bytes) := by
  obtain ⟨between, -, others⟩ := writeOutputs_append_eq_ok_iff.mp written
  obtain ⟨next, first, later⟩ := writeOutputs_cons_eq_ok_iff.mp others
  rw [find?_of_writeOutputs_of_not_target later last, find?_of_write first, if_pos rfl]

/-- A place that differs after outputs were written is the place of one of them and holds a
file. -/
theorem find?_of_writeOutputs {store final : Store} {files : List Output}
    (written : writeOutputs current store files = .ok final) (place : Place) :
    final.find? place = store.find? place ∨
      ∃ output ∈ files, target current output.path = place ∧
        final.find? place = some (.file output.bytes) := by
  induction files generalizing store with
  | nil =>
      cases written
      exact .inl rfl
  | cons output rest ih =>
      obtain ⟨between, first, others⟩ := writeOutputs_cons_eq_ok_iff.mp written
      have updated := find?_of_write first place
      rcases ih others with unchanged | ⟨later, member, same, found⟩
      · by_cases atTarget : place = target current output.path
        · rw [if_pos atTarget] at updated
          exact .inr ⟨output, List.mem_cons_self, atTarget.symm, unchanged.trans updated⟩
        · rw [if_neg atTarget] at updated
          exact .inl (unchanged.trans updated)
      · exact .inr ⟨later, List.mem_cons_of_mem output member, same, found⟩

end Generation
end BindingGen
