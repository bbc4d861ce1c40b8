import BindingGen.Proofs.Prototype.Parameters

/-!
# Reading finds the derivation

A text is read without fault exactly when it has a derivation.  It has at most one, and the
prototype that is read is the one that the derivation stands for.
-/

namespace BindingGen
namespace Prototype

open Text

theorem ParameterList.WellFormed.ne_parenthesis {list : ParameterList}
    (wellFormed : list.WellFormed) :
    ∀ lexeme ∈ list.lexemes, lexeme.symbol ≠ .opening ∧ lexeme.symbol ≠ .closing := by
  have inParameter {lexemes : List Lexeme} (isParameter : IsParameter lexemes) :
      ∀ lexeme ∈ lexemes, lexeme.symbol ≠ .opening ∧ lexeme.symbol ≠ .closing := by
    intro lexeme member
    obtain ⟨notOpening, notClosing, -⟩ := ne_of_inType (isParameter.inType lexeme member)
    exact ⟨notOpening, notClosing⟩
  intro lexeme member
  cases list with
  | blank => cases member
  | void word =>
      obtain rfl := List.mem_singleton.mp member
      have isVoid : lexeme.symbol.text = "void".toList := wellFormed
      constructor <;> intro same <;> rw [same] at isVoid <;> cases isVoid
  | parameters first others =>
      obtain ⟨isParameter, separated⟩ := wellFormed
      rcases List.mem_append.mp member with inFirst | later
      · exact inParameter isParameter lexeme inFirst
      · obtain ⟨other, inOthers, inOther⟩ := List.mem_flatMap.mp later
        obtain ⟨isComma, alsoParameter⟩ := separated other inOthers
        rcases List.mem_cons.mp inOther with rfl | inSecond
        · rw [isComma]
          exact ⟨nofun, nofun⟩
        · exact inParameter alsoParameter lexeme inSecond

theorem Lexes.isInnerChar {cs after : List Char} {lexemes : List Lexeme}
    (lexes : Lexes cs lexemes after)
    (inside : ∀ lexeme ∈ lexemes, lexeme.symbol ≠ .opening ∧ lexeme.symbol ≠ .closing) :
    ∀ c ∈ cs, isInnerChar c = true := by
  intro c member
  rcases lexes.mem member with blank | ⟨lexeme, inLexemes, inText⟩
  · simp [Prototype.isInnerChar, blank]
  · obtain ⟨notOpening, notClosing⟩ := inside lexeme inLexemes
    cases symbol : lexeme.symbol with
    | word text identifier =>
        rw [symbol] at inText
        simp [Prototype.isInnerChar, isWordChar_of_mem_identifier identifier inText]
    | opening => exact absurd symbol notOpening
    | closing => exact absurd symbol notClosing
    | _ =>
        rw [symbol] at inText
        rw [List.mem_singleton.mp inText]
        decide

namespace Derivation

/-- The names and stars in front of the opening parenthesis. -/
theorem inType_head (d : Derivation) :
    ∀ lexeme ∈ d.returnType ++ [d.name], lexeme.symbol.inType = true := by
  intro lexeme member
  rcases List.mem_append.mp member with inReturnType | isName
  · exact d.isType.inType lexeme inReturnType
  · rw [List.mem_singleton.mp isName]
    exact inType_of_isWord d.isWord

/-- The lexemes of a derivation are those of the texts around its parentheses. -/
theorem lexes_iff (d : Derivation) {text : List Char} :
    Lexes text d.lexemes [] ↔
      ∃ head list, text = head ++ '(' :: (list ++ [')']) ∧
        Lexes head (d.returnType ++ [d.name]) d.opening.gap ∧
          Lexes list d.list.lexemes d.closing.gap := by
  have opens : d.opening.symbol.isWord = false := by
    rw [d.isOpening]
    rfl
  have closes : d.closing.symbol.isWord = false := by
    rw [d.isClosing]
    rfl
  rw [lexemes, lexes_append_separator_iff opens, d.isOpening]
  constructor
  · rintro ⟨head, second, rfl, headLexes, lexes⟩
    rw [lexes_append_separator_iff closes, d.isClosing] at lexes
    obtain ⟨list, nothing, rfl, listLexes, isNothing⟩ := lexes
    obtain ⟨rfl, -⟩ := lexes_nil_iff.mp isNothing
    exact ⟨head, list, rfl, headLexes, listLexes⟩
  · rintro ⟨head, list, rfl, headLexes, listLexes⟩
    refine ⟨head, list ++ [')'], rfl, headLexes, ?_⟩
    rw [lexes_append_separator_iff closes, d.isClosing]
    exact ⟨list, [], rfl, listLexes, lexes_nil_iff.mpr ⟨rfl, by simp⟩⟩

theorem eq_of_lexemes {d e : Derivation} (same : d.lexemes = e.lexemes) : d = e := by
  have noOpening (d : Derivation) :
      ∀ lexeme ∈ d.returnType ++ [d.name], ¬ lexeme.symbol = .opening :=
    fun lexeme member => (ne_of_inType (d.inType_head lexeme member)).1
  obtain ⟨sameHead, sameOpening, sameRest⟩ :=
    eq_of_first_separator (noOpening d) (noOpening e) d.isOpening e.isOpening same
  obtain ⟨sameType, sameName⟩ := List.append_inj' sameHead rfl
  obtain ⟨sameLexemes, sameClosing⟩ := List.append_inj' sameRest rfl
  have sameList := d.wellFormed.eq_of_lexemes e.wellFormed sameLexemes
  obtain ⟨dType, dName, dOpening, dList, dClosing⟩ := d
  obtain ⟨eType, eName, eOpening, eList, eClosing⟩ := e
  simp only [List.cons.injEq, and_true] at sameType sameName sameOpening sameList sameClosing
  subst sameType sameName sameOpening sameList sameClosing
  rfl

end Derivation

theorem parseTrimmed_eq_ok_iff {text : List Char} {p : Prototype} :
    parseTrimmed text = .ok p ↔
      ∃ d : Derivation, Lexes text d.lexemes [] ∧ d.prototype = p := by
  constructor
  · intro parsed
    obtain ⟨head, list, rfl, inner⟩ := exists_parenthesized parsed
    obtain ⟨isHead, isList⟩ := (parseTrimmed_parenthesized_eq_ok_iff inner).mp parsed
    obtain ⟨type, name, before, headLexes, isType, isWord, typeText, nameText⟩ :=
      (splitHead_eq_ok_iff fun c member => inner c (List.mem_append_left list member)).mp isHead
    obtain ⟨parameters, after, listLexes, wellFormed, parameterTexts⟩ :=
      (parseParameters_eq_ok_iff fun c member => inner c (List.mem_append_right head member)).mp
        isList
    let d : Derivation := ⟨type, name, ⟨before, headLexes.blank, .opening⟩, parameters,
      ⟨after, listLexes.blank, .closing⟩, isType, isWord, rfl, wellFormed, rfl⟩
    refine ⟨d, d.lexes_iff.mpr ⟨head, list, rfl, headLexes, listLexes⟩, ?_⟩
    obtain ⟨pName, pParameters, pReturnType⟩ := p
    obtain rfl : pName = _ := nameText
    obtain rfl : pParameters = _ := parameterTexts
    obtain rfl : pReturnType = _ := typeText
    rfl
  · rintro ⟨d, lexes, rfl⟩
    obtain ⟨head, list, rfl, headLexes, listLexes⟩ := d.lexes_iff.mp lexes
    have headInner : ∀ c ∈ head, isInnerChar c = true := by
      refine headLexes.isInnerChar fun lexeme member => ?_
      obtain ⟨notOpening, notClosing, -⟩ := ne_of_inType (d.inType_head lexeme member)
      exact ⟨notOpening, notClosing⟩
    have listInner := listLexes.isInnerChar d.wellFormed.ne_parenthesis
    have inner : ∀ c ∈ head ++ list, isInnerChar c = true := by
      intro c member
      exact (List.mem_append.mp member).elim (headInner c) (listInner c)
    exact (parseTrimmed_parenthesized_eq_ok_iff inner).mpr
      ⟨(splitHead_eq_ok_iff headInner).mpr ⟨_, _, _, headLexes, d.isType, d.isWord, rfl, rfl⟩,
        (parseParameters_eq_ok_iff listInner).mpr ⟨_, _, listLexes, d.wellFormed, rfl⟩⟩

/-! ## What a derivation tells -/

/-- Only a word alone is spelled as a word. -/
theorem spelling_eq_iff {lexemes : List Lexeme} (isType : IsType lexemes)
    (apart : lexemes.IsChain Apart) {word : List Char} (identifier : isIdentifier word = true) :
    spelling lexemes = word ↔ ∃ lexeme, lexemes = [lexeme] ∧ lexeme.symbol.text = word := by
  constructor
  · intro spelled
    cases lexemes with
    | nil => cases isType
    | cons first rest =>
        cases rest with
        | nil => exact ⟨first, rfl, by simpa [spelling] using spelled⟩
        | cons next others =>
            have foreign : ∃ c ∈ spelling (first :: next :: others), isWordChar c = false := by
              by_cases together : next.gap = []
              · have notWord : next.symbol.isWord = false := by
                  rw [← Bool.not_eq_true]
                  exact fun isWord =>
                    (List.isChain_cons_cons.mp apart).1 isType.1 isWord together
                obtain ⟨c, inText, -⟩ := exists_head?_text_append next.symbol
                exact ⟨c, by simp [spelling, inText], by rw [isWordChar_eq_isWord inText, notWord]⟩
              · exact ⟨' ', by simp [spelling, together], by decide⟩
            obtain ⟨c, member, notWordChar⟩ := foreign
            rw [spelled] at member
            rw [isWordChar_of_mem_identifier identifier member] at notWordChar
            cases notWordChar
  · rintro ⟨lexeme, rfl, rfl⟩
    simp [spelling]

/-- A list of parameters has a comma for each of them but the first. -/
theorem count_comma_of_lexes {first : List Lexeme} {others : List (Lexeme × List Lexeme)}
    {cs after : List Char} (lexes : Lexes cs (ParameterList.parameters first others).lexemes after)
    (wellFormed : (ParameterList.parameters first others).WellFormed) :
    cs.count ',' = others.length := by
  induction others generalizing first cs with
  | nil =>
      rw [ParameterList.lexemes_parameters_nil] at lexes
      exact List.count_eq_zero.mpr (lexes.comma_not_mem wellFormed.1.inType)
  | cons other others ih =>
      obtain ⟨comma, second⟩ := other
      obtain ⟨isParameter, isComma, following⟩ :=
        ParameterList.wellFormed_parameters_cons_iff.mp wellFormed
      obtain ⟨piece, rest, rfl, pieceLexes, restLexes⟩ :=
        (ParameterList.lexes_parameters_cons_iff isComma).mp lexes
      have here := List.count_eq_zero.mpr (pieceLexes.comma_not_mem isParameter.inType)
      have further := ih restLexes following
      simp [here, further]

namespace Derivation

theorem isVoid_prototype_iff {d : Derivation} {text : List Char} (lexes : Lexes text d.lexemes []) :
    d.prototype.isVoid = true ↔
      ∃ word, d.returnType = [word] ∧ word.symbol.text = "void".toList := by
  obtain ⟨head, list, -, headLexes, -⟩ := d.lexes_iff.mp lexes
  have apart := (List.isChain_append.mp headLexes.apart).1
  rw [← spelling_eq_iff d.isType apart (by decide), isVoid, beq_iff_eq, prototype,
    ← String.toList_inj, String.toList_ofList]

theorem parameters_prototype_eq_nil_iff (d : Derivation) :
    d.prototype.parameters = [] ↔ d.list = .blank ∨ ∃ word, d.list = .void word := by
  cases list : d.list <;> simp [prototype, ParameterList.each, list]

theorem length_parameters_prototype {d : Derivation} {text : List Char}
    (lexes : Lexes text d.lexemes []) (filled : d.prototype.parameters ≠ []) :
    d.prototype.parameters.length = text.count ',' + 1 := by
  obtain ⟨head, list, rfl, headLexes, listLexes⟩ := d.lexes_iff.mp lexes
  have inHead := List.count_eq_zero.mpr (headLexes.comma_not_mem d.inType_head)
  have wellFormed := d.wellFormed
  rw [ne_eq, parameters_prototype_eq_nil_iff] at filled
  cases isList : d.list with
  | blank => exact absurd (.inl isList) filled
  | void word => exact absurd (.inr ⟨word, isList⟩) filled
  | parameters first others =>
      rw [isList] at listLexes wellFormed
      have inList := count_comma_of_lexes listLexes wellFormed
      simp [prototype, ParameterList.each, isList, inHead, inList]

end Derivation

@[simp]
theorem count_comma_trim (cs : List Char) : (trim cs).count ',' = cs.count ',' := by
  obtain ⟨before, after, blank, alsoBlank, shape⟩ := exists_append_trim_append cs
  have outside {blanks : List Char} (blank : ∀ c ∈ blanks, isBlank c = true) :
      blanks.count ',' = 0 :=
    List.count_eq_zero.mpr fun member => Bool.false_ne_true (blank ',' member)
  conv => rhs; rw [shape]
  simp [outside blank, outside alsoBlank]

/-- A line is read exactly when the text between the blanks at its ends has a derivation, and to
what the derivation stands for.  The derivation is the only one.  It has no parameters exactly when
the list is blank or the word `void`, and else one more than the line has commas; and it stands for
a function that returns nothing exactly when its return type is the word `void`. -/
theorem parse_iff_unique_derivation (line : String) :
    (∀ p, parse line = .ok p ↔
        ∃ d : Derivation, Lexes (trim line.toList) d.lexemes [] ∧ d.prototype = p) ∧
      (∀ d e : Derivation, Lexes (trim line.toList) d.lexemes [] →
        Lexes (trim line.toList) e.lexemes [] → d = e) ∧
      ∀ d : Derivation, Lexes (trim line.toList) d.lexemes [] →
        (d.prototype.parameters = [] ↔ d.list = .blank ∨ ∃ word, d.list = .void word) ∧
          (d.prototype.parameters ≠ [] →
            d.prototype.parameters.length = line.toList.count ',' + 1) ∧
          (d.prototype.isVoid = true ↔
            ∃ word, d.returnType = [word] ∧ word.symbol.text = "void".toList) := by
  refine ⟨fun p => parseTrimmed_eq_ok_iff, ?_, ?_⟩
  · intro d e lexes otherLexes
    exact Derivation.eq_of_lexemes (lexes.unique otherLexes).1
  · intro d lexes
    refine ⟨d.parameters_prototype_eq_nil_iff, ?_, Derivation.isVoid_prototype_iff lexes⟩
    rw [← count_comma_trim]
    exact Derivation.length_parameters_prototype lexes

theorem parse_spaced_unique_derivation :
    parse " unsigned\tint  *f( uint  a ,b ) " = .ok ⟨"f", ["uint a", "b"], "unsigned int *"⟩ ∧
      ∃ d : Derivation, Lexes (trim " unsigned\tint  *f( uint  a ,b ) ".toList) d.lexemes [] ∧
        d.prototype = ⟨"f", ["uint a", "b"], "unsigned int *"⟩ ∧
          ∀ e : Derivation,
            Lexes (trim " unsigned\tint  *f( uint  a ,b ) ".toList) e.lexemes [] → e = d := by
  have parsed : parse " unsigned\tint  *f( uint  a ,b ) " =
      .ok ⟨"f", ["uint a", "b"], "unsigned int *"⟩ := rfl
  obtain ⟨finds, unique, -⟩ := parse_iff_unique_derivation " unsigned\tint  *f( uint  a ,b ) "
  obtain ⟨d, lexes, stands⟩ := (finds _).mp parsed
  exact ⟨parsed, d, lexes, stands, fun e otherLexes => unique e d otherLexes lexes⟩

end Prototype
end BindingGen
