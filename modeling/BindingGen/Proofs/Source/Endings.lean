import BindingGen.Proofs.Source.Agreement
import BindingGen.Proofs.Text.Rows

/-!
# Both endings of generated files

The two endings of lines lead to the same files but for the carriage returns in front of line feeds.
No line of an emitted text holds either character, whatever text the prototypes were read from, so
the ending is the only source of both.
-/

namespace BindingGen

open Text

namespace LineEnding

theorem toList_crlf_terminate {lines : List String} (unbroken : ∀ line ∈ lines, Unbroken line) :
    (crlf.terminate lines).toList = withReturns (lf.terminate lines).toList := by
  induction lines with
  | nil => simp [terminate, withReturns]
  | cons line rest ih =>
      obtain ⟨here, later⟩ := List.forall_mem_cons.mp unbroken
      have noFeed : '\n' ∉ line.toList := fun member => by cases here '\n' member
      rw [toList_terminate_cons, toList_terminate_cons, ih later, withReturns_append,
        withReturns_append, withReturns_of_not_mem noFeed]
      rfl

theorem return_not_mem_lf_terminate {lines : List String}
    (unbroken : ∀ line ∈ lines, Unbroken line) : '\r' ∉ (lf.terminate lines).toList := by
  induction lines with
  | nil => simp [terminate]
  | cons line rest ih =>
      obtain ⟨here, later⟩ := List.forall_mem_cons.mp unbroken
      have inLine : '\r' ∉ line.toList := fun member => by cases here '\r' member
      simp [inLine, text, ih later]

end LineEnding

namespace SourceFile

section Lines

variable (s : Settings) (prototypes : List Prototype) (ending : LineEnding)

theorem reference_withEnding :
    reference { s with lineEnding := ending } prototypes =
      .ok ⟨s.referenceFile, ending.terminate
        (classLines s s.referenceSymbol (prototypes.map referenceDeclaration))⟩ :=
  reference_eq { s with lineEnding := ending } prototypes

theorem exportList_withEnding :
    exportList { s with lineEnding := ending } prototypes =
      .ok ⟨s.exportFile, ending.terminate
        (prototypes.map fun q => s.exportStyle.directive q.name)⟩ :=
  exportList_eq { s with lineEnding := ending } prototypes

theorem binding_withEnding (p : Platform) :
    binding { s with lineEnding := ending } p prototypes =
      .ok ⟨s.bindingFile p, ending.terminate (classLines s (bindingGuard s p)
        (prototypes.flatMap (bindingDeclarations (p.libraryFileName s.libraryStem))))⟩ :=
  binding_eq { s with lineEnding := ending } p prototypes

end Lines

/-- Settings that differ in the ending of lines lead to one text up to the carriage returns in front
of line feeds, and neither text holds a carriage return or a line feed anywhere else. -/
def EndsEitherWay (emit : Settings → Except Fault SourceFile) (s : Settings) : Prop :=
  ∃ name text,
    emit { s with lineEnding := .lf } = .ok ⟨name, text⟩ ∧
      emit { s with lineEnding := .crlf } =
        .ok ⟨name, String.ofList (withReturns text.toList)⟩ ∧
      '\r' ∉ text.toList ∧ BreaksPaired (withReturns text.toList)

theorem endsEitherWay_of_lines {emit : Settings → Except Fault SourceFile} {s : Settings}
    {name : String} {lines : List String}
    (emits : ∀ ending, emit { s with lineEnding := ending } = .ok ⟨name, ending.terminate lines⟩)
    (unbroken : ∀ line ∈ lines, Unbroken line) : EndsEitherWay emit s := by
  have noReturn := LineEnding.return_not_mem_lf_terminate unbroken
  refine ⟨name, LineEnding.lf.terminate lines, emits .lf, ?_, noReturn,
    breaksPaired_withReturns noReturn⟩
  rw [emits .crlf, ← LineEnding.toList_crlf_terminate unbroken, String.ofList_toList]

theorem unbroken_referenceDeclaration {q : Prototype} (normal : q.Normal) :
    Unbroken (referenceDeclaration q) := by
  have modifiers : Unbroken "public static unsafe " := by decide
  have signature : Unbroken q.signature :=
    fun c inSignature => normal.isLineBreak_eq_false_of_mem_signature inSignature
  have stop : Unbroken " => throw null;" := by decide
  exact (modifiers.append signature).append stop

/-- The ending that accepted settings ask for decides nothing about the three files but which
characters end their lines, and these stand nowhere else. -/
theorem endings_are_exchangeable {prototypes : List Prototype}
    (parsed : ∀ q ∈ prototypes, ∃ line, Prototype.parse line = .ok q) {s : Settings}
    (accepted : s.validate = .ok ()) :
    EndsEitherWay (fun settings => reference settings prototypes) s ∧
      EndsEitherWay (fun settings => exportList settings prototypes) s ∧
      ∀ p : Platform, isIdentifier p.constant.toList = true →
        Unbroken (p.libraryFileName s.libraryStem) →
          EndsEitherWay (fun settings => binding settings p prototypes) s := by
  have normal (q : Prototype) (member : q ∈ prototypes) : q.Normal := by
    obtain ⟨line, isParsed⟩ := parsed q member
    exact Prototype.normal_of_parse isParsed
  refine ⟨?_, ?_, fun p identifier libraryUnbroken => ?_⟩
  · have declarations : ∀ d ∈ prototypes.map referenceDeclaration, Unbroken d := by
      intro d isDeclared
      obtain ⟨q, member, rfl⟩ := List.mem_map.mp isDeclared
      exact unbroken_referenceDeclaration (normal q member)
    have symbol := Unbroken.of_isIdentifier (Settings.accepted_iff.mp accepted).2.2.1
    exact endsEitherWay_of_lines (reference_withEnding s prototypes)
      (unbroken_of_mem_classLines accepted symbol declarations)
  · have directives : ∀ d ∈ prototypes.map fun q => s.exportStyle.directive q.name,
        Unbroken d := by
      intro d isDirective
      obtain ⟨q, member, rfl⟩ := List.mem_map.mp isDirective
      exact unbroken_directive (Unbroken.of_isIdentifier (normal q member).identifier) _
    exact endsEitherWay_of_lines (exportList_withEnding s prototypes) directives
  · have declarations : ∀ d ∈
        prototypes.flatMap (bindingDeclarations (p.libraryFileName s.libraryStem)),
        Unbroken d := by
      intro d isDeclared
      obtain ⟨q, member, isOne⟩ := List.mem_flatMap.mp isDeclared
      exact unbroken_of_mem_bindingDeclarations libraryUnbroken (normal q member) d isOne
    exact endsEitherWay_of_lines (fun ending => binding_withEnding s prototypes ending p)
      (unbroken_of_mem_classLines accepted (unbroken_bindingGuard accepted identifier)
        declarations)

theorem endings_standard_are_exchangeable :
    Prototype.parse "int\r\n*f(\nvoid *a,\tint  b )" = .ok ⟨"f", ["void *a", "int b"], "int *"⟩ ∧
      Settings.standard.validate = .ok () ∧
      EndsEitherWay
        (fun settings => reference settings [⟨"f", ["void *a", "int b"], "int *"⟩])
        Settings.standard ∧
      EndsEitherWay
        (fun settings => exportList settings [⟨"f", ["void *a", "int b"], "int *"⟩])
        Settings.standard ∧
      isIdentifier "OSX_X64".toList = true ∧
      Unbroken (Platform.libraryFileName
        ⟨"osx-x64", "OSX_X64", .osx, true, "MacOs64"⟩ "bearssl") ∧
      EndsEitherWay
        (fun settings => binding settings ⟨"osx-x64", "OSX_X64", .osx, true, "MacOs64"⟩
          [⟨"f", ["void *a", "int b"], "int *"⟩])
        Settings.standard := by
  have read : Prototype.parse "int\r\n*f(\nvoid *a,\tint  b )" =
      .ok ⟨"f", ["void *a", "int b"], "int *"⟩ := rfl
  have accepted : Settings.standard.validate = .ok () := rfl
  have identifier : isIdentifier "OSX_X64".toList = true := rfl
  have plain : IsPlain (Platform.libraryFileName
      ⟨"osx-x64", "OSX_X64", .osx, true, "MacOs64"⟩ "bearssl").toList := by
    rw [Platform.isPlain_libraryFileName_iff]
    unfold IsPlain
    decide
  have unbroken : Unbroken (Platform.libraryFileName
      ⟨"osx-x64", "OSX_X64", .osx, true, "MacOs64"⟩ "bearssl") :=
    fun _ inName => plain.isLineBreak_eq_false inName
  have parsed : ∀ q ∈ [(⟨"f", ["void *a", "int b"], "int *"⟩ : Prototype)],
      ∃ line, Prototype.parse line = .ok q := by
    intro q member
    obtain rfl := List.mem_singleton.mp member
    exact ⟨_, read⟩
  obtain ⟨references, exports, bindings⟩ := endings_are_exchangeable parsed accepted
  exact ⟨read, accepted, references, exports, identifier, unbroken,
    bindings _ identifier unbroken⟩

end SourceFile
end BindingGen
