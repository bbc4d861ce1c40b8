import BindingGen.Proofs.Prototype.FixedPoint
import BindingGen.Proofs.Source.BindingShape
import BindingGen.Proofs.Source.Frame

/-!
# Generated files agree

The prototypes of a listing can be read out of the binding file and out of the reference file that
are generated from it, in their order and with nothing lost or added, and the export list names
them in the same order.
-/

namespace BindingGen
namespace SourceFile

open Text Writer

/-- What stands in front of the signature on a line of a binding file. -/
def bindingStart : List Char :=
  "        public static extern unsafe ".toList

def bindingStop : List Char :=
  ";".toList

/-- What stands in front of the signature on a line of a reference file. -/
def referenceStart : List Char :=
  "        public static unsafe ".toList

def referenceStop : List Char :=
  " => throw null;".toList

/-- What stands in front of the name that an attribute binds. -/
def attributeStart (library : String) : List Char :=
  ("        [DllImport(\"" ++ library ++ "\", EntryPoint = \"").toList

def attributeStop : List Char :=
  "\", CallingConvention = CallingConvention.Cdecl)]".toList

/-- Every declaration comes directly after an attribute that binds the name it declares. -/
def Attributed (library : String) (lines : List (List Char)) : Prop :=
  ∀ i line cs, lines[i]? = some line → between? bindingStart bindingStop line = some cs →
    ∃ j previous p, i = j + 1 ∧ lines[j]? = some previous ∧
      Prototype.parse (String.ofList cs) = .ok p ∧
        between? (attributeStart library) attributeStop previous = some p.name.toList

/-- Three files hold the same prototypes, one of them under the names of a library. -/
structure Agree (s : Settings) (library : String) (ps : List Prototype)
    (binding reference exportList : SourceFile) : Prop where
  binding : ∃ lines, s.lineEnding.cut binding.contents.toList = lines ++ [[]] ∧
    IsClassOf bindingStart bindingStop ps lines ∧ Attributed library lines
  reference : ∃ lines, s.lineEnding.cut reference.contents.toList = lines ++ [[]] ∧
    IsClassOf referenceStart referenceStop ps lines
  exportList : s.lineEnding.cut exportList.contents.toList =
    (ps.map fun p => (s.exportStyle.directive p.name).toList) ++ [[]]

/-! ## Declarations -/

/-- A declaration set in by eight spaces is read back to what is between its ends. -/
theorem between?_indented {head : String} (filled : head.isEmpty = false) (middle tail : String) :
    between? ((indentation 2).toList ++ head.toList) tail.toList
      (indented 2 (head ++ (middle ++ tail))).toList = some middle.toList := by
  have whole : (head ++ (middle ++ tail)).isEmpty = false := by
    rw [String.isEmpty_eq_false_iff] at filled ⊢
    exact fun isEmpty => filled (String.append_eq_empty_iff.mp isEmpty).1
  rw [between?_eq_some_iff, indented, whole, if_neg Bool.false_ne_true]
  simp only [String.toList_append, List.append_assoc]

@[simp]
theorem between?_referenceDeclaration (p : Prototype) :
    between? referenceStart referenceStop (indented 2 (referenceDeclaration p)).toList =
      some p.signature.toList := by
  have shape : referenceDeclaration p =
      "public static unsafe " ++ (p.signature ++ " => throw null;") := by
    unfold referenceDeclaration
    exact String.append_assoc
  have start : referenceStart = (indentation 2).toList ++ "public static unsafe ".toList := rfl
  rw [shape, start]
  exact between?_indented rfl p.signature " => throw null;"

/-- The second of the lines that bind a prototype. -/
def bindingDeclaration (p : Prototype) : String :=
  "public static extern unsafe " ++ p.signature ++ ";"

@[simp]
theorem between?_bindingDeclaration (p : Prototype) :
    between? bindingStart bindingStop (indented 2 (bindingDeclaration p)).toList =
      some p.signature.toList := by
  have shape : bindingDeclaration p = "public static extern unsafe " ++ (p.signature ++ ";") := by
    unfold bindingDeclaration
    exact String.append_assoc
  have start : bindingStart = (indentation 2).toList ++ "public static extern unsafe ".toList := rfl
  rw [shape, start]
  exact between?_indented rfl p.signature ";"

theorem bindingDeclarations_eq (library : String) (p : Prototype) :
    bindingDeclarations library p = [attributeLine library p.name, bindingDeclaration p] :=
  rfl

@[simp]
theorem between?_attributeLine (library name : String) :
    between? (attributeStart library) attributeStop
      (indented 2 (attributeLine library name)).toList = some name.toList := by
  -- The texts are regrouped as variables, for literals are costly to compare.
  have regrouped (first second third fourth : String) :
      first ++ library ++ second ++ name ++ third ++ fourth =
        (first ++ library ++ second) ++ (name ++ (third ++ fourth)) := by
    simp only [String.append_assoc]
  have indentedStart (spaces first second : String) :
      ((spaces ++ first) ++ library ++ second).toList =
        spaces.toList ++ (first ++ library ++ second).toList := by
    simp only [String.toList_append, List.append_assoc]
  have filled : ("[DllImport(\"" ++ library ++ "\", EntryPoint = \"").isEmpty = false := by
    rw [String.isEmpty_eq_false_iff]
    intro isEmpty
    have lastEmpty := (String.append_eq_empty_iff.mp isEmpty).2
    revert lastEmpty
    decide
  have shape : attributeLine library name = _ := regrouped _ _ _ _
  have start : attributeStart library = _ := indentedStart (indentation 2) "[DllImport(\"" _
  rw [shape, start]
  exact between?_indented filled name _

theorem initial_of_between? {start stop cs : List Char} {content : String} {c : Char}
    (begins : initial start = some c)
    (found : between? start stop (indented 2 content).toList = some cs) :
    initial content.toList = some c := by
  rw [← initial_indented 2]
  exact marks_between? begins stop _ (by simp [found])

@[simp]
theorem initial_bindingStart : initial bindingStart = some 'p' := by
  decide

@[simp]
theorem initial_referenceStart : initial referenceStart = some 'p' := by
  decide

@[simp]
theorem initial_attributeStart (library : String) :
    initial (attributeStart library) = some '[' := by
  have appended {first : String} {c : Char} (starts : initial first.toList = some c)
      (second : String) : initial (first ++ second).toList = some c := by
    rw [String.toList_append]
    exact initial_append starts second.toList
  exact appended (appended (by decide) library) _

@[simp]
theorem initial_attributeLine (library name : String) :
    initial (attributeLine library name).toList = some '[' :=
  initial_of_between? (initial_attributeStart library) (between?_attributeLine library name)

@[simp]
theorem between?_indented_attributeLine (library name : String) :
    between? bindingStart bindingStop (indented 2 (attributeLine library name)).toList = none := by
  refine between?_eq_none initial_bindingStart bindingStop ?_
  rw [initial_indented, initial_attributeLine]
  decide

/-! ## Classes -/

@[simp]
theorem getElem?_flatMap_bindingDeclarations_succ (library : String) (ps : List Prototype)
    (i : Nat) :
    (ps.flatMap (bindingDeclarations library))[2 * i + 1]? = ps[i]?.map bindingDeclaration := by
  induction ps generalizing i with
  | nil => rfl
  | cons p rest ih =>
      cases i with
      | zero => rfl
      | succ i =>
          have next : 2 * (i + 1) + 1 = (2 * i + 1) + 1 + 1 := by omega
          rw [List.flatMap_cons, bindingDeclarations_eq, next]
          simp [ih]

/-- A line that declares is the second line of a prototype. -/
theorem exists_of_between?_classLines {s : Settings} {guard library : String}
    {ps : List Prototype} {i : Nat} {line cs : List Char}
    (isLine : ((classLines s guard (ps.flatMap (bindingDeclarations library))).map
      String.toList)[i]? = some line)
    (found : between? bindingStart bindingStop line = some cs) :
    ∃ m p, ps[m]? = some p ∧ i = 6 + (2 * m + 1) ∧ cs = p.signature.toList := by
  have starts : initial line = some 'p' :=
    marks_between? initial_bindingStart bindingStop line (by simp [found])
  have length : (opening s guard).length = 6 := rfl
  rw [toList_classLines, List.append_assoc, List.getElem?_append, length] at isLine
  split at isLine
  · have inFrame := List.mem_of_getElem? isLine
    exact absurd starts (initial_ne_of_mem_opening inFrame (by decide))
  next behind =>
    rw [List.getElem?_append] at isLine
    split at isLine
    · rw [List.getElem?_map] at isLine
      obtain ⟨d, isDeclared, rfl⟩ := Option.map_eq_some_iff.mp isLine
      obtain ⟨m, even | odd⟩ : ∃ m, i - 6 = 2 * m ∨ i - 6 = 2 * m + 1 := ⟨(i - 6) / 2, by omega⟩
      · rw [even, getElem?_flatMap_bindingDeclarations] at isDeclared
        obtain ⟨p, -, rfl⟩ := Option.map_eq_some_iff.mp isDeclared
        rw [between?_indented_attributeLine] at found
        cases found
      · rw [odd, getElem?_flatMap_bindingDeclarations_succ] at isDeclared
        obtain ⟨p, isPrototype, rfl⟩ := Option.map_eq_some_iff.mp isDeclared
        rw [between?_bindingDeclaration] at found
        exact ⟨m, p, isPrototype, by omega, (Option.some.inj found).symm⟩
    · have inFrame := List.mem_of_getElem? isLine
      exact absurd starts (initial_ne_of_mem_closing inFrame (by decide))

section Classes

variable {ps : List Prototype} (parsed : ∀ p ∈ ps, Prototype.parse p.signature = .ok p)
  (s : Settings) (guard library : String)
include parsed

theorem isClassOf_reference :
    IsClassOf referenceStart referenceStop ps
      ((classLines s guard (ps.map referenceDeclaration)).map String.toList) := by
  refine isClassOf_classLines initial_referenceStart parsed s guard ?inside ?declared
  case inside =>
    intro d isDeclared
    obtain ⟨p, -, rfl⟩ := List.mem_map.mp isDeclared
    rw [initial_of_between? initial_referenceStart (between?_referenceDeclaration p)]
    decide
  case declared =>
    have each (p : Prototype) : between? referenceStart referenceStop
        (indented 2 (referenceDeclaration p)).toList = some p.signature.toList :=
      between?_referenceDeclaration p
    rw [List.map_map, List.filterMap_map]
    simp only [Function.comp_def, each, List.filterMap_eq_map']

theorem isClassOf_binding :
    IsClassOf bindingStart bindingStop ps
      ((classLines s guard (ps.flatMap (bindingDeclarations library))).map String.toList) := by
  refine isClassOf_classLines initial_bindingStart parsed s guard ?inside ?declared
  case inside =>
    intro d isDeclared
    obtain ⟨p, -, isOne⟩ := List.mem_flatMap.mp isDeclared
    rw [bindingDeclarations_eq, List.mem_pair] at isOne
    rcases isOne with rfl | rfl
    · rw [initial_attributeLine]
      decide
    · rw [initial_of_between? initial_bindingStart (between?_bindingDeclaration p)]
      decide
  case declared =>
    clear parsed
    induction ps with
    | nil => rfl
    | cons p rest ih =>
        rw [List.flatMap_cons, List.map_append, List.filterMap_append, ih, bindingDeclarations_eq]
        simp only [List.map_cons, List.map_nil, List.filterMap_cons, List.filterMap_nil,
          between?_indented_attributeLine, between?_bindingDeclaration]
        rfl

theorem attributed_binding : Attributed library
    ((classLines s guard (ps.flatMap (bindingDeclarations library))).map String.toList) := by
  intro i line cs isLine found
  obtain ⟨m, p, isPrototype, rfl, rfl⟩ := exists_of_between?_classLines isLine found
  have inside : m < ps.length := (List.getElem?_eq_some_iff.mp isPrototype).1
  refine ⟨6 + 2 * m, (indented 2 (attributeLine library p.name)).toList, p, rfl, ?_, ?_,
    between?_attributeLine library p.name⟩
  · rw [List.getElem?_map, getElem?_classLines, getElem?_flatMap_bindingDeclarations, isPrototype]
    · rfl
    · rw [length_flatMap_bindingDeclarations]
      omega
  · rw [String.ofList_toList]
    exact parsed p (List.mem_of_getElem? isPrototype)

end Classes

/-! ## The three files -/

theorem unbroken_directive {name : String} (unbroken : Unbroken name) (style : ExportStyle) :
    Unbroken (style.directive name) := by
  have command : Unbroken "export " := by decide
  have option : Unbroken "/link /export:" := by decide
  cases style with
  | plain => exact command.append unbroken
  | msvc => exact option.append unbroken

/-- From any listing that was read, accepted settings and a platform with a proper constant and a
library whose name is on one line, three files are emitted that agree. -/
theorem emitted_files_agree {keepRepeated : Bool} {text : String} {ps : List Prototype}
    (read : Prototype.parseListing keepRepeated text = .ok ps) {s : Settings}
    (accepted : s.validate = .ok ()) {p : Platform}
    (identifier : isIdentifier p.constant.toList = true)
    (unbroken : Unbroken (p.libraryFileName s.libraryStem)) :
    ∃ bindingFile referenceFile exportFile,
      binding s p ps = .ok bindingFile ∧ reference s ps = .ok referenceFile ∧
        exportList s ps = .ok exportFile ∧
        Agree s (p.libraryFileName s.libraryStem) ps bindingFile referenceFile exportFile := by
  have normal : ∀ q ∈ ps, q.Normal := by
    intro q member
    obtain ⟨line, isParsed⟩ := Prototype.exists_parse_of_mem read member
    exact Prototype.normal_of_parse isParsed
  have parsed : ∀ q ∈ ps, Prototype.parse q.signature = .ok q := by
    intro q member
    obtain ⟨line, isParsed⟩ := Prototype.exists_parse_of_mem read member
    exact Prototype.parse_signature isParsed
  refine ⟨_, _, _, binding_eq s p ps, reference_eq s ps, exportList_eq s ps, ?_⟩
  constructor
  case binding =>
    have declarations : ∀ d ∈ ps.flatMap (bindingDeclarations (p.libraryFileName s.libraryStem)),
        Unbroken d := by
      intro d isDeclared
      obtain ⟨q, member, isOne⟩ := List.mem_flatMap.mp isDeclared
      exact unbroken_of_mem_bindingDeclarations unbroken (normal q member) d isOne
    have lines := unbroken_of_mem_classLines accepted (unbroken_bindingGuard accepted identifier)
      declarations
    dsimp only [bindingText]
    exact ⟨_, LineEnding.cut_terminate s.lineEnding lines, isClassOf_binding parsed s _ _,
      attributed_binding parsed s _ _⟩
  case reference =>
    have declarations : ∀ d ∈ ps.map referenceDeclaration, Unbroken d := by
      intro d isDeclared
      obtain ⟨q, member, rfl⟩ := List.mem_map.mp isDeclared
      have signature : Unbroken q.signature :=
        fun c inSignature => (normal q member).isLineBreak_eq_false_of_mem_signature inSignature
      have modifiers : Unbroken "public static unsafe " := by decide
      have stop : Unbroken " => throw null;" := by decide
      exact (modifiers.append signature).append stop
    have symbol := Unbroken.of_isIdentifier (Settings.accepted_iff.mp accepted).2.2.1
    have lines := unbroken_of_mem_classLines accepted symbol declarations
    dsimp only [referenceText]
    exact ⟨_, LineEnding.cut_terminate s.lineEnding lines, isClassOf_reference parsed s _⟩
  case exportList =>
    have directives : ∀ line ∈ ps.map fun q => s.exportStyle.directive q.name, Unbroken line := by
      intro line member
      obtain ⟨q, inListing, rfl⟩ := List.mem_map.mp member
      exact unbroken_directive (Unbroken.of_isIdentifier (normal q inListing).identifier) _
    have cut := LineEnding.cut_terminate s.lineEnding directives
    rw [List.map_map] at cut
    exact cut

theorem emitted_files_agree_standard :
    Prototype.parseListing false "int f(void  *p)\r\n\nvoid g( )" =
        .ok [⟨"f", ["void *p"], "int"⟩, ⟨"g", [], "void"⟩] ∧
      Settings.standard.validate = .ok () ∧
      ∃ p ∈ Platform.builtin, isIdentifier p.constant.toList = true ∧
        Unbroken (p.libraryFileName "bearssl") ∧
        ∃ bindingFile referenceFile exportFile,
          binding Settings.standard p [⟨"f", ["void *p"], "int"⟩, ⟨"g", [], "void"⟩] =
              .ok bindingFile ∧
            reference Settings.standard [⟨"f", ["void *p"], "int"⟩, ⟨"g", [], "void"⟩] =
              .ok referenceFile ∧
            exportList Settings.standard [⟨"f", ["void *p"], "int"⟩, ⟨"g", [], "void"⟩] =
              .ok exportFile ∧
            Agree Settings.standard (p.libraryFileName "bearssl")
              [⟨"f", ["void *p"], "int"⟩, ⟨"g", [], "void"⟩] bindingFile referenceFile
              exportFile := by
  have read : Prototype.parseListing false "int f(void  *p)\r\n\nvoid g( )" =
      .ok [⟨"f", ["void *p"], "int"⟩, ⟨"g", [], "void"⟩] := rfl
  have accepted : Settings.standard.validate = .ok () := rfl
  have member : ⟨"osx-x64", "OSX_X64", .osx, true, "MacOs64"⟩ ∈ Platform.builtin := by decide
  have identifier : isIdentifier "OSX_X64".toList = true := rfl
  have plain : IsPlain (Platform.libraryFileName
      ⟨"osx-x64", "OSX_X64", .osx, true, "MacOs64"⟩ "bearssl").toList := by
    rw [Platform.isPlain_libraryFileName_iff]
    unfold IsPlain
    decide
  have unbroken : Unbroken (Platform.libraryFileName
      ⟨"osx-x64", "OSX_X64", .osx, true, "MacOs64"⟩ "bearssl") :=
    fun _ inName => plain.isLineBreak_eq_false inName
  exact ⟨read, accepted, _, member, identifier, unbroken,
    emitted_files_agree read accepted identifier unbroken⟩

end SourceFile
end BindingGen
