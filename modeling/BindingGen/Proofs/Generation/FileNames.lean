import BindingGen.Proofs.Files.Join
import BindingGen.Proofs.Text.Characters
import BindingGen.Settings

/-!
# Names of generated files

Accepted settings make every generated file a single path component, unless an id of a platform
holds a slash.  The names of the binding files differ as the ids do; the reference file and the
export list may still take the name of another file.
-/

namespace BindingGen

/-- Images are different when those under a function that they determine are. -/
theorem nodup_map_of_determines {α β γ : Type} {f : α → β} {g : α → γ} {items : List α}
    (apart : (items.map f).Nodup)
    (determines : ∀ x ∈ items, ∀ y ∈ items, g x = g y → f x = f y) : (items.map g).Nodup := by
  unfold List.Nodup at apart ⊢
  rw [List.pairwise_map] at apart ⊢
  exact apart.imp_of_mem fun xMem yMem differ same => differ (determines _ xMem _ yMem same)

namespace Settings

theorem accepted_iff {s : Settings} :
    s.validate = .ok () ↔
      isQualifiedName s.namespaceName = true ∧ isSymbol s.className = true ∧
      isSymbol s.referenceSymbol = true ∧ isPlainFileName s.filePrefix = true ∧
      isPlainFileName s.exportFile = true := by
  unfold validate
  cases isQualifiedName s.namespaceName <;> cases isSymbol s.className <;>
    cases isSymbol s.referenceSymbol <;> cases isPlainFileName s.filePrefix <;>
      cases isPlainFileName s.exportFile <;> simp

theorem isComponent_of_isPlainFileName {name : String} (plain : isPlainFileName name = true) :
    Path.IsComponent name := by
  simp only [isPlainFileName, Bool.and_eq_true, Bool.not_eq_true', bne_iff_ne,
    List.all_eq_true] at plain
  obtain ⟨⟨⟨filled, notSame⟩, notUp⟩, allowed⟩ := plain
  refine ⟨String.isEmpty_eq_false_iff.mp filled, ?_, notSame, notUp⟩
  intro slash
  exact (allowed '/' slash).1.1.1 rfl

@[simp]
theorem toList_bindingFile (s : Settings) (p : Platform) :
    (s.bindingFile p).toList =
      s.filePrefix.toList ++ '.' :: (p.id.toList ++ ['.', 'c', 's']) := by
  simp [bindingFile, toString]

@[simp]
theorem toList_referenceFile (s : Settings) :
    s.referenceFile.toList = s.filePrefix.toList ++ ['.', 'r', 'e', 'f', '.', 'c', 's'] := by
  simp [referenceFile, toString]

/-- A name with at least three characters and no slash is a component. -/
private theorem isComponent_of_toList {name : String} (noSlash : '/' ∉ name.toList)
    (long : 2 < name.toList.length) : Path.IsComponent name := by
  have differs {other : String} (short : other.toList.length ≤ 2) : name ≠ other := by
    intro equal
    rw [equal] at long
    omega
  exact ⟨differs (by simp), noSlash, differs (by simp), differs (by simp)⟩

theorem isComponent_bindingFile_iff {s : Settings} (plain : isPlainFileName s.filePrefix = true)
    {p : Platform} : Path.IsComponent (s.bindingFile p) ↔ '/' ∉ p.id.toList := by
  have prefixNoSlash := (isComponent_of_isPlainFileName plain).noSlash
  constructor
  · intro isComponent slash
    apply isComponent.noSlash
    simp [slash]
  · intro noSlash
    apply isComponent_of_toList
    · simp [prefixNoSlash, noSlash]
    · rw [toList_bindingFile]
      simp only [List.length_append, List.length_cons]
      omega

/-- A binding file starts with its prefix, whatever its id is. -/
theorem isAbsolute_bindingFile {s : Settings} (plain : isPlainFileName s.filePrefix = true)
    (p : Platform) : Path.isAbsolute (s.bindingFile p) = false := by
  have isComponent := isComponent_of_isPlainFileName plain
  have relative := Path.isAbsolute_eq_false_of_noSlash isComponent.noSlash
  cases shape : s.filePrefix.toList with
  | nil => exact absurd (String.toList_eq_nil_iff.mp shape) isComponent.filled
  | cons c cs =>
      simp only [Path.isAbsolute, shape, toList_bindingFile] at relative ⊢
      exact relative

theorem isComponent_referenceFile {s : Settings} (plain : isPlainFileName s.filePrefix = true) :
    Path.IsComponent s.referenceFile := by
  have prefixNoSlash := (isComponent_of_isPlainFileName plain).noSlash
  apply isComponent_of_toList
  · simp [prefixNoSlash]
  · simp

@[simp]
theorem bindingFile_eq_iff {s : Settings} {p q : Platform} :
    s.bindingFile p = s.bindingFile q ↔ p.id = q.id := by
  rw [← String.toList_inj, toList_bindingFile, toList_bindingFile, ← String.toList_inj]
  simp

@[simp]
theorem bindingFile_eq_referenceFile_iff {s : Settings} {p : Platform} :
    s.bindingFile p = s.referenceFile ↔ p.id = "ref" := by
  rw [← String.toList_inj, toList_bindingFile, toList_referenceFile, ← String.toList_inj]
  constructor
  · intro equal
    have suffixes : p.id.toList ++ ['.', 'c', 's'] = ['r', 'e', 'f'] ++ ['.', 'c', 's'] := by
      simpa using equal
    exact List.append_cancel_right suffixes
  · intro equal
    simp [equal]

/-- The names of the files of a run in the order of writing. -/
def outputNames (s : Settings) : List String :=
  s.platforms.map s.bindingFile ++ [s.referenceFile, s.exportFile]

/-- No generated file has the name of another one. -/
structure NamesApart (s : Settings) : Prop where
  notReference : ∀ p ∈ s.platforms, p.id ≠ "ref"
  exportNotBinding : ∀ p ∈ s.platforms, s.exportFile ≠ s.bindingFile p
  exportNotReference : s.exportFile ≠ s.referenceFile

theorem nodup_outputNames_iff {s : Settings} (idsApart : (s.platforms.map Platform.id).Nodup) :
    s.outputNames.Nodup ↔ s.NamesApart := by
  have bindingsApart : (s.platforms.map s.bindingFile).Nodup :=
    nodup_map_of_determines idsApart fun _ _ _ _ => bindingFile_eq_iff.mp
  unfold outputNames
  simp only [List.nodup_append, bindingsApart, List.nodup_cons, List.mem_cons, List.mem_map,
    List.not_mem_nil, or_false, not_false_eq_true, List.nodup_nil, true_and, and_true]
  constructor
  · rintro ⟨differs, others⟩
    refine ⟨?_, ?_, fun equal => differs equal.symm⟩
    · intro p member equal
      exact others _ ⟨p, member, rfl⟩ _ (.inl rfl) (bindingFile_eq_referenceFile_iff.mpr equal)
    · intro p member equal
      exact others _ ⟨p, member, rfl⟩ _ (.inr rfl) equal.symm
  · intro apart
    refine ⟨fun equal => apart.exportNotReference equal.symm, ?_⟩
    rintro _ ⟨p, member, rfl⟩ _ (rfl | rfl)
    · exact fun equal =>
        apart.notReference p member (bindingFile_eq_referenceFile_iff.mp equal)
    · exact fun equal => apart.exportNotBinding p member equal.symm

end Settings
end BindingGen
