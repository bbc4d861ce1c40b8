import BindingGen.Proofs.Source.Lines

/-!
# Generated texts differ

No two files of a run hold the same text.  The guard on the first line tells binding and reference
files apart, since the constants of a valid catalog differ and identifiers hold no blanks, and an
export list never starts with a guard.
-/

namespace BindingGen
namespace SourceFile

theorem firstLine_classLines {s : Settings} {guard : String}
    (unbroken : Unbroken guard) (declarations : List String) :
    firstLine (s.lineEnding.terminate (classLines s guard declarations)) =
      ['#', 'i', 'f', ' '] ++ guard.toList := by
  have guardLine : ("#if " ++ guard).toList = ['#', 'i', 'f', ' '] ++ guard.toList := by simp
  rw [← guardLine]
  exact firstLine_terminate (Unbroken.append (by decide) unbroken) _ _

@[simp]
theorem toList_bindingGuard (s : Settings) (p : Platform) :
    (bindingGuard s p).toList =
      p.constant.toList ++ [' ', '&', '&', ' ', '!'] ++ s.referenceSymbol.toList := by
  simp [bindingGuard, toString]

/-- An export list starts with no guard. -/
theorem ne_exportText_of_firstLine {s : Settings} {text : String} {guard : List Char}
    (starts : firstLine text = ['#', 'i', 'f', ' '] ++ guard) (prototypes : List Prototype) :
    text ≠ exportText s prototypes := by
  intro equal
  rw [equal] at starts
  unfold exportText firstLine at starts
  cases prototypes with
  | nil => simp [LineEnding.terminate] at starts
  | cons p rest =>
      rw [List.map_cons, LineEnding.toList_terminate_cons] at starts
      cases style : s.exportStyle <;>
        simp [style, ExportStyle.directive, toString, Text.isLineBreak] at starts

section Accepted

variable {s : Settings} (accepted : s.validate = .ok ())
include accepted

theorem firstLine_referenceText (prototypes : List Prototype) :
    firstLine (referenceText s prototypes) =
      ['#', 'i', 'f', ' '] ++ s.referenceSymbol.toList := by
  have identifier := (Settings.accepted_iff.mp accepted).2.2.1
  exact firstLine_classLines (Unbroken.of_isIdentifier identifier) _

theorem firstLine_bindingText {p : Platform} (sound : p.Sound) (prototypes : List Prototype) :
    firstLine (bindingText s p prototypes) =
      ['#', 'i', 'f', ' '] ++
        (p.constant.toList ++ [' ', '&', '&', ' ', '!'] ++ s.referenceSymbol.toList) := by
  rw [← toList_bindingGuard]
  exact firstLine_classLines (unbroken_bindingGuard accepted sound.constantIdentifier) _

theorem constant_eq_of_bindingText_eq {p q : Platform} (pSound : p.Sound) (qSound : q.Sound)
    {prototypes : List Prototype}
    (equal : bindingText s p prototypes = bindingText s q prototypes) :
    p.constant = q.constant := by
  have lines := congrArg firstLine equal
  rw [firstLine_bindingText accepted pSound, firstLine_bindingText accepted qSound] at lines
  simp only [List.append_cancel_left_eq, List.append_cancel_right_eq] at lines
  exact String.toList_inj.mp lines

theorem bindingText_ne_referenceText {p : Platform} (sound : p.Sound)
    (prototypes : List Prototype) :
    bindingText s p prototypes ≠ referenceText s prototypes := by
  intro equal
  have lines := congrArg firstLine equal
  rw [firstLine_bindingText accepted sound, firstLine_referenceText accepted] at lines
  have lengths := congrArg List.length lines
  simp only [List.length_append, List.length_cons] at lengths
  omega

/-- The texts of all files of a run are different. -/
theorem nodup_texts (valid : s.platforms.Valid) (prototypes : List Prototype) :
    (s.platforms.map (fun p => bindingText s p prototypes) ++
      [referenceText s prototypes, exportText s prototypes]).Nodup := by
  have bindings : (s.platforms.map fun p => bindingText s p prototypes).Nodup :=
    nodup_map_of_determines valid.constantsApart fun _ pMem _ qMem =>
      constant_eq_of_bindingText_eq accepted (valid.sound _ pMem) (valid.sound _ qMem)
  have referenceNotExport : referenceText s prototypes ≠ exportText s prototypes :=
    ne_exportText_of_firstLine (firstLine_referenceText accepted prototypes) prototypes
  rw [List.nodup_append]
  refine ⟨bindings, by simp [referenceNotExport], ?_⟩
  intro text member other otherMem
  obtain ⟨p, inPlatforms, rfl⟩ := List.mem_map.mp member
  have sound := valid.sound p inPlatforms
  simp only [List.mem_cons, List.not_mem_nil, or_false] at otherMem
  rcases otherMem with rfl | rfl
  · exact bindingText_ne_referenceText accepted sound prototypes
  · exact ne_exportText_of_firstLine
      (firstLine_bindingText accepted sound prototypes) prototypes

end Accepted

end SourceFile
end BindingGen
