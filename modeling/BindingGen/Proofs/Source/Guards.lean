import BindingGen.Proofs.Source.Conditions
import BindingGen.Proofs.Source.Distinct
import Mathlib.Data.List.Nodup

/-!
# Which generated files are compiled

The first line of a generated class states the condition that the file is compiled under.  The
reference file and a binding file are never compiled together, because the guard of the one is
negated in that of the other.  Whether each binding file can be compiled alone depends on names
that are checked apart from each other: the reference symbol must not be the constant of a
platform, and the names of the truth values cannot be used as symbols.
-/

namespace BindingGen

@[simp]
theorem Condition.nameHolds_singleton {symbol text : String} :
    nameHolds [symbol] text = true ↔ text = "true" ∨ text ≠ "false" ∧ text = symbol := by
  simp [nameHolds]

namespace SourceFile

open Condition

/-- The condition that the first line of a file states. -/
def condition? (file : SourceFile) : Option Condition :=
  ((firstLine file.contents).dropPrefix? ['#', 'i', 'f', ' ']).bind ofText?

/-- Whether a file is compiled when some symbols are defined. -/
def compiles? (defined : List String) (file : SourceFile) : Option Bool :=
  file.condition?.map (Condition.holds defined)

theorem condition?_of_firstLine {file : SourceFile} {guard : List Char} {c : Condition}
    (starts : firstLine file.contents = ['#', 'i', 'f', ' '] ++ guard)
    (spelled : ofText? guard = some c) : file.condition? = some c := by
  have cut : (firstLine file.contents).dropPrefix? ['#', 'i', 'f', ' '] = some guard :=
    List.dropPrefix?_eq_some_iff.mpr ⟨_, starts, rfl⟩
  rw [condition?, cut]
  exact spelled

/-! ## The emitted guards -/

section Accepted

variable {s : Settings} (accepted : s.validate = .ok ())
include accepted

theorem compiles?_reference (name : String) (prototypes : List Prototype)
    (defined : List String) :
    compiles? defined ⟨name, referenceText s prototypes⟩ =
      some (nameHolds defined s.referenceSymbol) := by
  have identifier := (Settings.accepted_iff.mp accepted).2.2.1
  have stated : condition? ⟨name, referenceText s prototypes⟩ = some (.name s.referenceSymbol) :=
    condition?_of_firstLine (firstLine_referenceText accepted prototypes)
      (ofText?_identifier identifier)
  rw [compiles?, stated]
  rfl

theorem compiles?_binding (name : String) {p : Platform} (sound : p.Sound)
    (prototypes : List Prototype) (defined : List String) :
    compiles? defined ⟨name, bindingText s p prototypes⟩ =
      some (nameHolds defined p.constant && !nameHolds defined s.referenceSymbol) := by
  have identifier := (Settings.accepted_iff.mp accepted).2.2.1
  have stated : condition? ⟨name, bindingText s p prototypes⟩ =
      some (.joined .conjunction (.name p.constant) (.negation (.name s.referenceSymbol))) :=
    condition?_of_firstLine (firstLine_bindingText accepted sound prototypes)
      (ofText?_and_not sound.constantIdentifier identifier)
  rw [compiles?, stated]
  rfl

end Accepted

/-! ## Compiling for one platform -/

/-- With some symbols defined, the constant of one platform holds and no other name that a guard
starts with. -/
structure Selects (s : Settings) (defined : List String) (p : Platform) : Prop where
  chosen : nameHolds defined p.constant = true
  referenceLeft : nameHolds defined s.referenceSymbol = false
  othersLeft : ∀ q ∈ s.platforms, q ≠ p → nameHolds defined q.constant = false

/-- The names in the guards of all files can be told apart by what is defined. -/
structure GuardsApart (s : Settings) : Prop where
  referenceOpen : s.referenceSymbol ≠ "true"
  constantsOpen : ∀ p ∈ s.platforms, p.constant ≠ "false"
  noReference : ∀ p ∈ s.platforms, p.constant ≠ s.referenceSymbol
  trueAlone : ∀ p ∈ s.platforms, p.constant = "true" → ∀ q ∈ s.platforms, q = p

/-- Defining the constant of a platform alone selects it. -/
theorem GuardsApart.selects {s : Settings} (apart : GuardsApart s)
    (distinct : (s.platforms.map Platform.constant).Nodup) {p : Platform}
    (member : p ∈ s.platforms) : Selects s [p.constant] p where
  chosen := by
    rw [nameHolds_singleton]
    exact .inr ⟨apart.constantsOpen p member, rfl⟩
  referenceLeft := by
    rw [← Bool.not_eq_true, nameHolds_singleton]
    rintro (isTrue | ⟨-, same⟩)
    · exact apart.referenceOpen isTrue
    · exact apart.noReference p member same.symm
  othersLeft := by
    intro q inPlatforms differs
    rw [← Bool.not_eq_true, nameHolds_singleton]
    rintro (isTrue | ⟨-, same⟩)
    · exact differs (apart.trueAlone q inPlatforms isTrue p member).symm
    · exact differs (List.inj_on_of_nodup_map distinct inPlatforms member same)

theorem guardsApart_of_selects {s : Settings} (filled : s.platforms ≠ [])
    (selected : ∀ p ∈ s.platforms, ∃ defined, Selects s defined p) : GuardsApart s where
  referenceOpen := by
    obtain ⟨p, rest, shape⟩ := List.exists_cons_of_ne_nil filled
    obtain ⟨defined, selects⟩ := selected p (by simp [shape])
    intro isTrue
    have left := selects.referenceLeft
    simp [isTrue, nameHolds] at left
  constantsOpen := by
    intro p member isFalse
    obtain ⟨defined, selects⟩ := selected p member
    have chosen := selects.chosen
    simp [isFalse, nameHolds] at chosen
  noReference := by
    intro p member same
    obtain ⟨defined, selects⟩ := selected p member
    have left := selects.referenceLeft
    rw [← same, selects.chosen] at left
    cases left
  trueAlone := by
    intro p member isTrue q inPlatforms
    obtain ⟨defined, selects⟩ := selected q inPlatforms
    by_contra differs
    have left := selects.othersLeft p member (Ne.symm differs)
    simp [isTrue, nameHolds] at left

theorem guardsApart_iff {s : Settings} (valid : s.platforms.Valid) :
    (∀ p ∈ s.platforms, ∃ defined, Selects s defined p) ↔ GuardsApart s :=
  ⟨guardsApart_of_selects valid.filled, fun apart p member =>
    ⟨[p.constant], apart.selects valid.constantsApart member⟩⟩

/-! ## Files that are compiled together -/

/-- The binding file of a platform is compiled without all other files exactly when what is
defined selects the platform. -/
theorem compilesAlone_iff {s : Settings} (accepted : s.validate = .ok ())
    (valid : s.platforms.Valid) {p : Platform} (member : p ∈ s.platforms)
    (names : Platform → String) (referenceName : String) (prototypes : List Prototype)
    (defined : List String) :
    (compiles? defined ⟨names p, bindingText s p prototypes⟩ = some true ∧
        compiles? defined ⟨referenceName, referenceText s prototypes⟩ = some false ∧
        ∀ q ∈ s.platforms, q ≠ p →
          compiles? defined ⟨names q, bindingText s q prototypes⟩ = some false) ↔
      Selects s defined p := by
  have binds {q : Platform} (inPlatforms : q ∈ s.platforms) :=
    compiles?_binding accepted (names q) (valid.sound q inPlatforms) prototypes defined
  rw [compiles?_reference accepted, binds member]
  constructor
  · rintro ⟨chosen, left, others⟩
    simp only [Option.some.injEq, Bool.and_eq_true, Bool.not_eq_true'] at chosen left
    refine ⟨chosen.1, left, fun q inPlatforms differs => ?_⟩
    have skipped := others q inPlatforms differs
    rw [binds inPlatforms] at skipped
    simpa [left] using skipped
  · rintro ⟨chosen, left, others⟩
    refine ⟨by simp [chosen, left], by simp [left], fun q inPlatforms differs => ?_⟩
    rw [binds inPlatforms, others q inPlatforms differs]
    rfl

/-- No symbols make the reference file and a binding file of accepted settings compile together.
Each binding file can be compiled without all other files exactly when the names in the guards
can be told apart. -/
theorem guards_separate_iff (s : Settings) (prototypes : List Prototype)
    (accepted : s.validate = .ok ()) (unbroken : s.platforms.issues = []) :
    ∃ (reference : SourceFile) (binding : Platform → SourceFile),
      SourceFile.reference s prototypes = .ok reference ∧
      (∀ p, SourceFile.binding s p prototypes = .ok (binding p)) ∧
      (∀ defined, ∃ stubs, reference.compiles? defined = some stubs ∧
        ∀ p ∈ s.platforms, ∃ calls, (binding p).compiles? defined = some calls ∧
          ¬ (stubs = true ∧ calls = true)) ∧
      ((∀ p ∈ s.platforms, ∃ defined, (binding p).compiles? defined = some true ∧
          reference.compiles? defined = some false ∧
          ∀ q ∈ s.platforms, q ≠ p → (binding q).compiles? defined = some false) ↔
        GuardsApart s) := by
  have valid := Catalog.issues_eq_nil_iff.mp unbroken
  refine ⟨_, _, reference_eq s prototypes, fun p => binding_eq s p prototypes, ?_, ?_⟩
  · intro defined
    refine ⟨_, compiles?_reference accepted _ prototypes defined, fun p member => ?_⟩
    refine ⟨_, compiles?_binding accepted _ (valid.sound p member) prototypes defined, ?_⟩
    rintro ⟨stubs, calls⟩
    simp [stubs] at calls
  · rw [← guardsApart_iff valid]
    exact forall₂_congr fun p member => exists_congr fun defined =>
      compilesAlone_iff accepted valid member s.bindingFile s.referenceFile prototypes defined

/-- Each of the built-in platforms can be compiled for alone. -/
theorem guards_standard_separate :
    Settings.standard.validate = .ok () ∧ Settings.standard.platforms.issues = [] ∧
      ∃ (reference : SourceFile) (binding : Platform → SourceFile),
        SourceFile.reference Settings.standard [⟨"f", ["int a"], "int"⟩] = .ok reference ∧
        ∀ p ∈ Platform.builtin,
          SourceFile.binding Settings.standard p [⟨"f", ["int a"], "int"⟩] = .ok (binding p) ∧
          ∃ defined, (binding p).compiles? defined = some true ∧
            reference.compiles? defined = some false ∧
            ∀ q ∈ Platform.builtin, q ≠ p → (binding q).compiles? defined = some false := by
  have accepted : Settings.standard.validate = .ok () := rfl
  have unbroken : Settings.standard.platforms.issues = [] := rfl
  have apart : GuardsApart Settings.standard := ⟨by decide, by decide, by decide, by decide⟩
  obtain ⟨reference, binding, emitted, bindings, -, exactly⟩ :=
    guards_separate_iff Settings.standard [⟨"f", ["int a"], "int"⟩] accepted unbroken
  exact ⟨accepted, unbroken, reference, binding, emitted,
    fun p member => ⟨bindings p, exactly.mpr apart p member⟩⟩

/-- Settings that select the reference file by the constant of their platform. -/
def sharedSymbolSettings : Settings :=
  { Settings.standard with
    referenceSymbol := "LINUX_X64"
    platforms := [⟨"linux-x64", "LINUX_X64", .linux, true, "Linux64"⟩] }

/-- A reference symbol that is the constant of a platform is accepted, and no symbols make the
binding file of that platform compile. -/
theorem guards_sharedSymbol_not_separate :
    sharedSymbolSettings.validate = .ok () ∧ sharedSymbolSettings.platforms.issues = [] ∧
      ∃ p ∈ sharedSymbolSettings.platforms, ∃ file,
        SourceFile.binding sharedSymbolSettings p [⟨"f", ["int a"], "int"⟩] = .ok file ∧
        ∀ defined, file.compiles? defined ≠ some true := by
  have accepted : sharedSymbolSettings.validate = .ok () := rfl
  have unbroken : sharedSymbolSettings.platforms.issues = [] := rfl
  have sound := (Catalog.issues_eq_nil_iff.mp unbroken).sound _ List.mem_cons_self
  refine ⟨accepted, unbroken, _, List.mem_cons_self, _, binding_eq .., fun defined => ?_⟩
  rw [compiles?_binding accepted _ sound]
  simp [sharedSymbolSettings]

end SourceFile
end BindingGen
