import BindingGen.Proofs.Prototype.Normal
import BindingGen.Proofs.Source.Lines
import BindingGen.Proofs.Source.Literals
import BindingGen.Proofs.Text.Lowercase

/-!
# The shape of binding files

A binding file is meant to have nine lines of its own and two for each prototype, the first of
which names the library in a literal.  Accepted settings, valid catalogs and prototypes that were
read keep everything else on its line; only the file name of the library is pasted unchecked, and
the file has its shape exactly when that name is a plain text or no prototype names it.
-/

namespace BindingGen

namespace Platform

@[simp]
theorem isPlain_libraryFileName_iff {p : Platform} {stem : String} :
    IsPlain (p.libraryFileName stem).toList ↔
      IsPlain stem.toList ∧ IsPlain p.family.id.toList ∧
        IsPlain p.family.libraryExtension.toList := by
  have dot : IsPlain ['.'] := by
    unfold IsPlain
    decide
  have architecture : IsPlain p.architecture.toList := by
    unfold Platform.architecture IsPlain
    split <;> decide
  have lowered : IsPlain (Text.lowercase p.family.id.toList) ↔ IsPlain p.family.id.toList := by
    have caseless : ∀ c ∈ literalStops, Text.isCaseless c = true := by decide +kernel
    constructor
    · intro plain c isStop member
      exact plain c isStop ((Text.mem_lowercase_iff (caseless c isStop)).mpr member)
    · intro plain c isStop member
      exact plain c isStop ((Text.mem_lowercase_iff (caseless c isStop)).mp member)
  have shape : (p.libraryFileName stem).toList =
      stem.toList ++ ['.'] ++ Text.lowercase p.family.id.toList ++ ['.'] ++
        p.architecture.toList ++ ['.'] ++ p.family.libraryExtension.toList := by
    simp [libraryFileName]
  rw [shape]
  simp only [isPlain_append, dot, architecture, lowered, and_true, and_assoc]

end Platform

namespace SourceFile

open Writer

/-- A line that binds a name to a library, both of them read from their literals. -/
def IsAttribute (library name line : List Char) : Prop :=
  ∃ atLibrary atName,
    line = "        [DllImport(".toList ++ atLibrary ∧
    readLiteral atLibrary = some (library, ", EntryPoint = ".toList ++ atName) ∧
    readLiteral atName = some (name, ", CallingConvention = CallingConvention.Cdecl)]".toList)

/-- What a binding file is meant to be: a text that is cut into nine lines and two more for every
prototype, the first of which is the attribute of that prototype. -/
structure WellFormed (ending : LineEnding) (library : String) (prototypes : List Prototype)
    (text : String) (lines : List (List Char)) : Prop where
  cut : ending.cut text.toList = lines ++ [[]]
  length : lines.length = 9 + 2 * prototypes.length
  unbroken : ∀ line ∈ lines, ∀ c ∈ line, Text.isLineBreak c = false
  attributes : ∀ i q, prototypes[i]? = some q →
    ∃ line, lines[6 + 2 * i]? = some line ∧ IsAttribute library.toList q.name.toList line

theorem isPlain_of_isAttribute {library name line : List Char}
    (isAttribute : IsAttribute library name line) : IsPlain library := by
  obtain ⟨atLibrary, atName, -, read, -⟩ := isAttribute
  cases atLibrary with
  | nil => simp [readLiteral] at read
  | cons c cs =>
      by_cases isQuote : c = '"'
      · subst isQuote
        exact (readLiteral_quote_iff.mp read).1
      · simp [readLiteral, isQuote] at read

theorem toList_indented_attributeLine (library name : String) :
    (indented 2 (attributeLine library name)).toList =
      "        [DllImport(".toList ++ '"' :: (library.toList ++ '"' :: (", EntryPoint = ".toList ++
        '"' :: (name.toList ++ '"' ::
          ", CallingConvention = CallingConvention.Cdecl)]".toList))) := by
  have filled : (attributeLine library name).isEmpty = false := by
    rw [String.isEmpty_eq_false_iff]
    unfold attributeLine
    intro isEmpty
    have lastEmpty := (String.append_eq_empty_iff.mp isEmpty).2
    revert lastEmpty
    decide
  -- Only the quotation marks have to come out of the fixed texts.
  have start : "        [DllImport(" = indentation 2 ++ "[DllImport(" := rfl
  have opening : "[DllImport(\"" = "[DllImport(" ++ "\"" := rfl
  have between : "\", EntryPoint = \"" = "\"" ++ ", EntryPoint = " ++ "\"" := rfl
  have separator : "\", " = "\"" ++ ", " := rfl
  have closing : ", CallingConvention = CallingConvention.Cdecl)]" =
      ", " ++ "CallingConvention = CallingConvention.Cdecl)]" := rfl
  have quote : "\"".toList = ['"'] := rfl
  rw [indented, filled, if_neg Bool.false_ne_true]
  unfold attributeLine
  simp only [start, opening, between, separator, closing, quote, String.toList_append,
    List.append_assoc, List.cons_append, List.nil_append]

theorem isAttribute_attributeLine {library name : String} (libraryPlain : IsPlain library.toList)
    (namePlain : IsPlain name.toList) :
    IsAttribute library.toList name.toList (indented 2 (attributeLine library name)).toList :=
  ⟨_, _, toList_indented_attributeLine library name, readLiteral_quote_iff.mpr ⟨libraryPlain, rfl⟩,
    readLiteral_quote_iff.mpr ⟨namePlain, rfl⟩⟩

theorem unbroken_attributeLine {library name : String} (libraryUnbroken : Unbroken library)
    (nameUnbroken : Unbroken name) : Unbroken (attributeLine library name) := by
  have opening : Unbroken "[DllImport(\"" := by decide
  have between : Unbroken "\", EntryPoint = \"" := by decide
  have separator : Unbroken "\", " := by decide
  have closing : Unbroken "CallingConvention = CallingConvention.Cdecl)]" := by decide
  unfold attributeLine
  refine Unbroken.append ?_ closing
  refine Unbroken.append ?_ separator
  refine Unbroken.append ?_ nameUnbroken
  refine Unbroken.append ?_ between
  exact opening.append libraryUnbroken

theorem unbroken_of_mem_bindingDeclarations {library : String} (libraryUnbroken : Unbroken library)
    {q : Prototype} (normal : q.Normal) :
    ∀ declaration ∈ bindingDeclarations library q, Unbroken declaration := by
  intro declaration isDeclared
  simp only [bindingDeclarations, List.mem_cons, List.not_mem_nil, or_false] at isDeclared
  rcases isDeclared with rfl | rfl
  · exact unbroken_attributeLine libraryUnbroken (Unbroken.of_isIdentifier normal.identifier)
  · have signature : Unbroken q.signature :=
      fun c inSignature => normal.isLineBreak_eq_false_of_mem_signature inSignature
    have modifiers : Unbroken "public static extern unsafe " := by decide
    have semicolon : Unbroken ";" := by decide
    refine Unbroken.append ?_ semicolon
    exact modifiers.append signature

theorem length_flatMap_bindingDeclarations (library : String) (prototypes : List Prototype) :
    (prototypes.flatMap (bindingDeclarations library)).length = 2 * prototypes.length := by
  induction prototypes with
  | nil => rfl
  | cons p rest ih =>
      rw [List.flatMap_cons, List.length_append, ih, List.length_cons]
      simp only [bindingDeclarations, List.length_cons, List.length_nil]
      omega

@[simp]
theorem getElem?_flatMap_bindingDeclarations (library : String) (prototypes : List Prototype)
    (i : Nat) :
    (prototypes.flatMap (bindingDeclarations library))[2 * i]? =
      prototypes[i]?.map fun p => attributeLine library p.name := by
  induction prototypes generalizing i with
  | nil => rfl
  | cons p rest ih =>
      cases i with
      | zero => rfl
      | succ i =>
          have next : 2 * (i + 1) = 2 * i + 1 + 1 := by omega
          rw [List.flatMap_cons, bindingDeclarations, next]
          simp [ih]

/-- The declarations of a class come after the six lines that open it. -/
theorem getElem?_classLines (s : Settings) (guard : String) {declarations : List String} {k : Nat}
    (before : k < declarations.length) :
    (classLines s guard declarations)[6 + k]? = declarations[k]?.map (indented 2) := by
  have inside : k < (declarations.map (indented 2)).length := by simpa using before
  unfold classLines
  rw [List.append_assoc, List.getElem?_append_right (by simp), List.getElem?_append_left]
  · simp
  · simpa using inside

/-- The lines of a binding file are as they are meant to be once the name of its library is
plain, whatever else was accepted. -/
theorem wellFormed_bindingText {s : Settings} (accepted : s.validate = .ok ()) {p : Platform}
    (sound : p.Sound) {prototypes : List Prototype} (normal : ∀ q ∈ prototypes, q.Normal)
    (plain : prototypes = [] ∨ IsPlain (p.libraryFileName s.libraryStem).toList) :
    WellFormed s.lineEnding (p.libraryFileName s.libraryStem) prototypes
      (bindingText s p prototypes)
      ((classLines s (bindingGuard s p) (prototypes.flatMap
        (bindingDeclarations (p.libraryFileName s.libraryStem)))).map String.toList) := by
  have libraryPlain {q : Prototype} (member : q ∈ prototypes) :
      IsPlain (p.libraryFileName s.libraryStem).toList := by
    rcases plain with rfl | plain
    · cases member
    · exact plain
  have declarations : ∀ declaration ∈ prototypes.flatMap
      (bindingDeclarations (p.libraryFileName s.libraryStem)), Unbroken declaration := by
    intro declaration member
    obtain ⟨q, inPrototypes, isDeclared⟩ := List.mem_flatMap.mp member
    have library : Unbroken (p.libraryFileName s.libraryStem) :=
      fun c inLibrary => (libraryPlain inPrototypes).isLineBreak_eq_false inLibrary
    exact unbroken_of_mem_bindingDeclarations library (normal q inPrototypes) declaration isDeclared
  have lines := unbroken_of_mem_classLines accepted
    (unbroken_bindingGuard accepted sound.constantIdentifier) declarations
  constructor
  case cut =>
    unfold bindingText
    exact LineEnding.cut_terminate s.lineEnding lines
  case length =>
    simp only [classLines, List.length_map, List.length_append, List.length_cons, List.length_nil,
      length_flatMap_bindingDeclarations]
    omega
  case unbroken =>
    intro line member c inLine
    obtain ⟨text, isLine, rfl⟩ := List.mem_map.mp member
    exact lines text isLine c inLine
  case attributes =>
    intro i q found
    have inPrototypes := List.mem_of_getElem? found
    have before : 2 * i < (prototypes.flatMap
        (bindingDeclarations (p.libraryFileName s.libraryStem))).length := by
      rw [length_flatMap_bindingDeclarations]
      have inside := (List.getElem?_eq_some_iff.mp found).1
      omega
    refine ⟨_, ?_, isAttribute_attributeLine (libraryPlain inPrototypes)
      (isPlain_of_isIdentifier (normal q inPrototypes).identifier)⟩
    rw [List.getElem?_map, getElem?_classLines s _ before, getElem?_flatMap_bindingDeclarations,
      found]
    rfl

/-- A binding file is emitted for every platform of a valid catalog, and it has its shape exactly
when no prototype is declared or the three texts that name the library are plain. -/
theorem binding_wellFormed_iff (s : Settings) (catalog : Catalog) (p : Platform)
    (prototypes : List Prototype) (accepted : s.validate = .ok ()) (valid : catalog.issues = [])
    (member : p ∈ catalog)
    (parsed : ∀ q ∈ prototypes, ∃ line, Prototype.parse line = .ok q) :
    ∃ file, SourceFile.binding s p prototypes = .ok file ∧
      ((∃ lines, WellFormed s.lineEnding (p.libraryFileName s.libraryStem) prototypes
          file.contents lines) ↔
        prototypes = [] ∨ IsPlain s.libraryStem.toList ∧ IsPlain p.family.id.toList ∧
          IsPlain p.family.libraryExtension.toList) := by
  have sound := (Catalog.issues_eq_nil_iff.mp valid).sound p member
  have normal : ∀ q ∈ prototypes, q.Normal := by
    intro q inPrototypes
    obtain ⟨line, isParsed⟩ := parsed q inPrototypes
    exact Prototype.normal_of_parse isParsed
  refine ⟨_, binding_eq s p prototypes, ?_⟩
  dsimp only
  rw [← Platform.isPlain_libraryFileName_iff]
  constructor
  · rintro ⟨lines, wellFormed⟩
    cases prototypes with
    | nil => exact .inl rfl
    | cons q rest =>
        obtain ⟨line, -, isAttribute⟩ := wellFormed.attributes 0 q rfl
        exact .inr (isPlain_of_isAttribute isAttribute)
  · intro plain
    exact ⟨_, wellFormed_bindingText accepted sound normal plain⟩

theorem binding_standard_wellFormed :
    Settings.standard.validate = .ok () ∧ Catalog.issues Platform.builtin = [] ∧
      Prototype.parse "int f( int\ta )" = .ok ⟨"f", ["int a"], "int"⟩ ∧
      ∃ p ∈ Platform.builtin, ∃ file,
        SourceFile.binding Settings.standard p [⟨"f", ["int a"], "int"⟩] = .ok file ∧
        ∃ lines, WellFormed .lf (p.libraryFileName "bearssl") [⟨"f", ["int a"], "int"⟩]
          file.contents lines := by
  have accepted : Settings.standard.validate = .ok () := rfl
  have valid : Catalog.issues Platform.builtin = [] := rfl
  have parsed : Prototype.parse "int f( int\ta )" = .ok ⟨"f", ["int a"], "int"⟩ := rfl
  have member : ⟨"osx-x64", "OSX_X64", .osx, true, "MacOs64"⟩ ∈ Platform.builtin := by decide
  obtain ⟨file, emitted, exactly⟩ := binding_wellFormed_iff Settings.standard Platform.builtin _
    [⟨"f", ["int a"], "int"⟩] accepted valid member (by simpa using ⟨_, parsed⟩)
  refine ⟨accepted, valid, parsed, _, member, file, emitted, exactly.mpr (.inr ?_)⟩
  unfold IsPlain
  decide

/-- Settings whose library stem ends the literal that it is pasted into. -/
def quotingSettings : Settings :=
  { Settings.standard with libraryStem := "a\"b" }

/-- A quotation mark in the stem of the library is accepted and breaks every attribute. -/
theorem binding_quotingSettings_not_wellFormed :
    quotingSettings.validate = .ok () ∧ quotingSettings.platforms.issues = [] ∧
      Prototype.parse "int f(int a)" = .ok ⟨"f", ["int a"], "int"⟩ ∧
      ∃ p ∈ quotingSettings.platforms, ∃ file,
        SourceFile.binding quotingSettings p [⟨"f", ["int a"], "int"⟩] = .ok file ∧
        ¬ ∃ lines, WellFormed quotingSettings.lineEnding
          (p.libraryFileName quotingSettings.libraryStem) [⟨"f", ["int a"], "int"⟩] file.contents
          lines := by
  refine ⟨rfl, rfl, rfl, ⟨"linux-x64", "LINUX_X64", .linux, true, "Linux64"⟩, by decide, _,
    binding_eq .., ?_⟩
  rintro ⟨lines, wellFormed⟩
  obtain ⟨line, -, isAttribute⟩ := wellFormed.attributes 0 _ rfl
  have quote : '"' ∈ (Platform.libraryFileName
      ⟨"linux-x64", "LINUX_X64", .linux, true, "Linux64"⟩ quotingSettings.libraryStem).toList := by
    simp [Platform.libraryFileName, quotingSettings]
  exact isPlain_of_isAttribute isAttribute '"' (by decide) quote

end SourceFile
end BindingGen
