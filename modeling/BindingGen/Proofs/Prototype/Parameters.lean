import BindingGen.Proofs.Prototype.Head

/-!
# Reading a parameter list

A parameter is read when its lexemes are a type that ends in an identifier and are not the word
`void` alone.  The text between the parentheses is read when it is blank, that word, or parameters
with commas between them, and it is one of these in a single way.
-/

namespace BindingGen
namespace Prototype

open Text

/-! ## Single parameters -/

theorem isParameter_iff {lexemes : List Lexeme} :
    IsParameter lexemes ↔
      IsType lexemes ∧ (∀ last ∈ lexemes.getLast?, last.symbol.isWord = true) ∧
        ∀ word, lexemes = [word] → word.symbol.text ≠ "void".toList := by
  constructor
  · rintro (⟨isWord, notVoid⟩ | ⟨isType, isWord⟩)
    next name =>
      refine ⟨⟨isWord, by simp⟩, by simpa using isWord, ?_⟩
      rintro word ⟨rfl⟩
      exact notVoid
    next type name =>
      cases type with
      | nil => cases isType
      | cons first rest =>
          refine ⟨⟨isType.1, ?_⟩, ?_, by simp⟩
          case refine_2 =>
            rw [List.getLast?_concat]
            simpa using isWord
          intro lexeme member
          rcases List.mem_append.mp member with inType | isName
          · exact isType.2 lexeme inType
          · rw [List.mem_singleton.mp isName]
            exact inType_of_isWord isWord
  · rintro ⟨isType, isWord, notVoid⟩
    rcases List.eq_nil_or_concat lexemes with rfl | ⟨front, last, rfl⟩
    · cases isType
    · rw [List.concat_eq_append] at isType isWord notVoid ⊢
      have lastWord : last.symbol.isWord = true := by simpa using isWord
      cases front with
      | nil => exact .untyped lastWord (notVoid last rfl)
      | cons first rest =>
          exact .typed ⟨isType.1, fun lexeme member =>
            isType.2 lexeme (List.mem_append_left [last] member)⟩ lastWord

/-- A text is an identifier between blanks when that is its only lexeme. -/
theorem trim_eq_iff {cs word : List Char} (inner : ∀ c ∈ cs, isInnerChar c = true)
    (identifier : isIdentifier word = true) :
    trim cs = word ↔ ∃ lexeme after, Lexes cs [lexeme] after ∧ lexeme.symbol.text = word := by
  constructor
  · intro trimmed
    obtain ⟨before, after, blank, alsoBlank, shape⟩ := exists_append_trim_append cs
    rw [trimmed] at shape
    have asciiBlank : ∀ c ∈ before ++ after, isAsciiBlank c = true := by
      intro c member
      have inText : c ∈ cs := by
        rw [shape]
        simp only [List.mem_append] at member ⊢
        exact member.imp_right .inr
      have isBlank := (List.mem_append.mp member).elim (blank c) (alsoBlank c)
      exact isAsciiBlank_of_isInnerChar (inner c inText) isBlank
    refine ⟨⟨before, fun c member => asciiBlank c (by simp [member]), .word word identifier⟩, after,
      lexes_cons_iff.mpr ⟨by simp, after, shape, lexes_nil_iff.mpr ⟨rfl, ?_⟩⟩, rfl⟩
    exact fun c member => asciiBlank c (by simp [member])
  · rintro ⟨lexeme, after, lexes, rfl⟩
    obtain ⟨-, second, rfl, nothing⟩ := lexes_cons_iff.mp lexes
    obtain ⟨rfl, blank⟩ := lexes_nil_iff.mp nothing
    obtain ⟨c, inText, isFirst⟩ := exists_head?_text_append lexeme.symbol
    obtain ⟨d, alsoInText, isLast⟩ := exists_getLast?_append_text lexeme.symbol
    have start : lexeme.symbol.text.head? = some c := by simpa using isFirst []
    refine trim_append (fun _ => lexeme.isBlank_of_mem_gap) ⟨?_, ?_⟩
      fun c member => isBlank_of_isAsciiBlank (blank c member)
    · simpa [start] using isBlank_eq_false_of_mem_text inText
    · have stop : lexeme.symbol.text.getLast? = some d := by simpa using isLast []
      simpa [stop] using isBlank_eq_false_of_mem_text alsoInText

theorem endsInIdentifier_map_token {lexemes : List Lexeme}
    (inType : ∀ lexeme ∈ lexemes, lexeme.symbol.inType = true) (notEmpty : lexemes ≠ []) :
    Token.endsInIdentifier (lexemes.map fun lexeme => lexeme.symbol.token) = true ↔
      ∀ last ∈ lexemes.getLast?, last.symbol.isWord = true := by
  rcases List.eq_nil_or_concat lexemes with rfl | ⟨front, last, rfl⟩
  · exact absurd rfl notEmpty
  · rw [List.concat_eq_append] at inType ⊢
    have lastInType := inType last (by simp)
    simp [Token.endsInIdentifier, isIdentifier_token lastInType]

theorem parseParameter_eq_ok_iff {cs : List Char} (inner : ∀ c ∈ cs, isInnerChar c = true)
    {position : Nat} {parameter : String} :
    parseParameter position (trim cs) = .ok parameter ↔
      ∃ lexemes after, Lexes cs lexemes after ∧ IsParameter lexemes ∧
        parameter = String.ofList (spelling lexemes) := by
  rw [parseParameter_trim_eq_ok_iff]
  constructor
  · rintro ⟨-, notVoid, isType, ends, rfl⟩
    obtain ⟨lexemes, after, lexes, typed⟩ := (isType_ofText_iff inner).mp isType
    have notEmpty : lexemes ≠ [] := by
      rintro rfl
      cases typed
    rw [lexes.ofText typed.inType, endsInIdentifier_map_token typed.inType notEmpty] at ends
    refine ⟨lexemes, after, lexes, isParameter_iff.mpr ⟨typed, ends, ?_⟩,
      by rw [lexes.collapseBlanks]⟩
    rintro word rfl isVoid
    exact notVoid ((trim_eq_iff inner (by decide)).mpr ⟨word, after, lexes, isVoid⟩)
  · rintro ⟨lexemes, after, lexes, isParameter, rfl⟩
    obtain ⟨isType, ends, notVoid⟩ := isParameter_iff.mp isParameter
    have typed := (isType_ofText_iff inner).mpr ⟨lexemes, after, lexes, isType⟩
    have notEmpty : lexemes ≠ [] := by
      rintro rfl
      cases isType
    refine ⟨?_, ?_, typed, ?_, by rw [lexes.collapseBlanks]⟩
    · intro isEmpty
      rw [← Token.ofText_trim, isEmpty] at typed
      cases typed
    · intro isVoid
      obtain ⟨word, otherAfter, otherLexes, text⟩ :=
        (trim_eq_iff inner (by decide : isIdentifier ['v', 'o', 'i', 'd'] = true)).mp isVoid
      exact notVoid word (lexes.unique otherLexes).1 text
    · rw [lexes.ofText isType.inType, endsInIdentifier_map_token isType.inType notEmpty]
      exact ends

/-! ## Parameter lists -/

namespace ParameterList

/-- What each parameter is read to. -/
def spellings (list : ParameterList) : List String :=
  list.each.map fun parameter => String.ofList (spelling parameter)

@[simp]
theorem lexemes_parameters_nil (first : List Lexeme) :
    (parameters first []).lexemes = first :=
  List.append_nil first

@[simp]
theorem lexemes_parameters_cons (first second : List Lexeme) (comma : Lexeme)
    (others : List (Lexeme × List Lexeme)) :
    (parameters first ((comma, second) :: others)).lexemes =
      first ++ comma :: (parameters second others).lexemes := by
  simp [lexemes]

@[simp]
theorem wellFormed_parameters_cons_iff {first second : List Lexeme} {comma : Lexeme}
    {others : List (Lexeme × List Lexeme)} :
    (parameters first ((comma, second) :: others)).WellFormed ↔
      IsParameter first ∧ comma.symbol = .comma ∧ (parameters second others).WellFormed := by
  simp only [WellFormed, List.forall_mem_cons, and_assoc]

/-- The text of some parameters is that of the first, a comma and the text of the others. -/
theorem lexes_parameters_cons_iff {first second : List Lexeme} {comma : Lexeme}
    (isComma : comma.symbol = .comma) {others : List (Lexeme × List Lexeme)}
    {cs after : List Char} :
    Lexes cs (parameters first ((comma, second) :: others)).lexemes after ↔
      ∃ piece rest, cs = piece ++ ',' :: rest ∧ Lexes piece first comma.gap ∧
        Lexes rest (parameters second others).lexemes after := by
  have notWord : comma.symbol.isWord = false := by
    rw [isComma]
    rfl
  rw [lexemes_parameters_cons, lexes_append_separator_iff notWord, isComma]
  rfl

end ParameterList

theorem IsParameter.inType {lexemes : List Lexeme} (isParameter : IsParameter lexemes) :
    ∀ lexeme ∈ lexemes, lexeme.symbol.inType = true :=
  (isParameter_iff.mp isParameter).1.inType

theorem ne_of_mem_text_of_inType {symbol : Symbol} (inType : symbol.inType = true) {c : Char}
    (member : c ∈ symbol.text) : c ≠ '(' ∧ c ≠ ')' ∧ c ≠ ',' := by
  cases symbol with
  | word text identifier =>
      have word := isWordChar_of_mem_identifier identifier member
      refine ⟨?_, ?_, ?_⟩ <;> rintro rfl <;> cases word
  | star =>
      rw [List.mem_singleton.mp member]
      decide
  | _ => cases inType

/-- No comma stands inside a type. -/
theorem Lexes.comma_not_mem {cs after : List Char} {lexemes : List Lexeme}
    (lexes : Lexes cs lexemes after) (inType : ∀ lexeme ∈ lexemes, lexeme.symbol.inType = true) :
    ',' ∉ cs := by
  intro member
  rcases lexes.mem member with blank | ⟨lexeme, inLexemes, inText⟩
  · cases blank
  · exact (ne_of_mem_text_of_inType (inType lexeme inLexemes) inText).2.2 rfl

/-! ### Uniqueness -/

/-- Two lists with a separator are equal only if their first separators stand at one place. -/
theorem eq_of_first_separator {separates : Lexeme → Prop}
    {front otherFront rest otherRest : List Lexeme} {separator other : Lexeme}
    (belong : ∀ lexeme ∈ front, ¬ separates lexeme)
    (alsoBelong : ∀ lexeme ∈ otherFront, ¬ separates lexeme) (isSeparator : separates separator)
    (alsoSeparator : separates other)
    (equal : front ++ separator :: rest = otherFront ++ other :: otherRest) :
    front = otherFront ∧ separator = other ∧ rest = otherRest := by
  induction front generalizing otherFront with
  | nil =>
      cases otherFront with
      | nil => simpa using equal
      | cons lexeme otherFront =>
          obtain ⟨rfl, -⟩ := List.cons.inj equal
          exact absurd isSeparator (alsoBelong separator List.mem_cons_self)
  | cons lexeme front ih =>
      cases otherFront with
      | nil =>
          obtain ⟨rfl, -⟩ := List.cons.inj equal
          exact absurd alsoSeparator (belong lexeme List.mem_cons_self)
      | cons otherLexeme otherFront =>
          obtain ⟨rfl, further⟩ := List.cons.inj equal
          obtain ⟨rfl, rest⟩ := ih
            (fun other member => belong other (List.mem_cons_of_mem _ member))
            (fun other member => alsoBelong other (List.mem_cons_of_mem _ member)) further
          exact ⟨rfl, rest⟩

namespace ParameterList

theorem WellFormed.ne_comma {first : List Lexeme} (isParameter : IsParameter first) :
    ∀ lexeme ∈ first, lexeme.symbol ≠ .comma :=
  fun lexeme member => (ne_of_inType (isParameter.inType lexeme member)).2.2

theorem WellFormed.parameters_inj {first second : List Lexeme}
    {others more : List (Lexeme × List Lexeme)} (wellFormed : (parameters first others).WellFormed)
    (alsoWellFormed : (parameters second more).WellFormed)
    (same : (parameters first others).lexemes = (parameters second more).lexemes) :
    parameters first others = parameters second more := by
  have noComma := ne_comma wellFormed.1
  have alsoNoComma := ne_comma alsoWellFormed.1
  induction others generalizing first second more with
  | nil =>
      cases more with
      | nil =>
          rw [lexemes_parameters_nil, lexemes_parameters_nil] at same
          rw [same]
      | cons other more =>
          have inFirst : other.1 ∈ first := by
            rw [lexemes_parameters_nil] at same
            rw [same, lexemes_parameters_cons]
            simp
          exact absurd (wellFormed_parameters_cons_iff.mp alsoWellFormed).2.1
            (noComma other.1 inFirst)
  | cons other others ih =>
      cases more with
      | nil =>
          have inSecond : other.1 ∈ second := by
            rw [lexemes_parameters_nil] at same
            rw [← same, lexemes_parameters_cons]
            simp
          exact absurd (wellFormed_parameters_cons_iff.mp wellFormed).2.1
            (alsoNoComma other.1 inSecond)
      | cons another more =>
          obtain ⟨comma, third⟩ := other
          obtain ⟨otherComma, fourth⟩ := another
          obtain ⟨-, isComma, following⟩ := wellFormed_parameters_cons_iff.mp wellFormed
          obtain ⟨-, alsoComma, alsoFollowing⟩ := wellFormed_parameters_cons_iff.mp alsoWellFormed
          rw [lexemes_parameters_cons, lexemes_parameters_cons] at same
          obtain ⟨rfl, rfl, further⟩ :=
            eq_of_first_separator noComma alsoNoComma isComma alsoComma same
          have tail := ih following alsoFollowing further (ne_comma following.1)
            (ne_comma alsoFollowing.1)
          simpa using tail

/-- The lexemes of a parameter list tell what kind of list it is and where its parameters end. -/
theorem WellFormed.eq_of_lexemes {list other : ParameterList} (wellFormed : list.WellFormed)
    (otherWellFormed : other.WellFormed) (same : list.lexemes = other.lexemes) : list = other := by
  have neither {first : List Lexeme} {others : List (Lexeme × List Lexeme)}
      (wellFormed : (parameters first others).WellFormed) :
      (parameters first others).lexemes ≠ [] ∧
        ∀ word : Lexeme, word.symbol.text = "void".toList →
          (parameters first others).lexemes ≠ [word] := by
    obtain ⟨isType, -, notVoid⟩ := isParameter_iff.mp wellFormed.1
    cases first with
    | nil => cases isType
    | cons lexeme rest =>
        refine ⟨by simp [lexemes], fun word isVoid alone => ?_⟩
        rw [lexemes, List.cons_append, List.cons.injEq, List.append_eq_nil_iff] at alone
        obtain ⟨rfl, rfl, -⟩ := alone
        exact notVoid lexeme rfl isVoid
  cases list with
  | blank =>
      cases other with
      | blank => rfl
      | void word => cases same
      | parameters first others => exact absurd same.symm (neither otherWellFormed).1
  | void word =>
      cases other with
      | blank => cases same
      | void otherWord =>
          obtain rfl : word = otherWord := by simpa [lexemes] using same
          rfl
      | parameters first others =>
          exact absurd same.symm ((neither otherWellFormed).2 word wellFormed)
  | parameters first others =>
      cases other with
      | blank => exact absurd same (neither wellFormed).1
      | void word => exact absurd same ((neither wellFormed).2 word otherWellFormed)
      | parameters second more => exact wellFormed.parameters_inj otherWellFormed same

end ParameterList

/-! ### Reading -/

theorem splitWhere_comma {piece : List Char} (noComma : ',' ∉ piece) :
    splitWhere (· == ',') piece = [piece] :=
  splitWhere_eq_singleton fun c member => by simpa using ne_of_mem_of_not_mem member noComma

theorem parseParametersFrom_of_lexes {first : List Lexeme} {others : List (Lexeme × List Lexeme)}
    {cs after : List Char} (inner : ∀ c ∈ cs, isInnerChar c = true)
    (lexes : Lexes cs (ParameterList.parameters first others).lexemes after)
    (wellFormed : (ParameterList.parameters first others).WellFormed) (position : Nat) :
    parseParametersFrom position (splitWhere (· == ',') cs) =
      .ok (ParameterList.parameters first others).spellings := by
  induction others generalizing first cs position with
  | nil =>
      have isParameter : IsParameter first := wellFormed.1
      rw [ParameterList.lexemes_parameters_nil] at lexes
      rw [splitWhere_comma (lexes.comma_not_mem isParameter.inType), parseParametersFrom_cons,
        (parseParameter_eq_ok_iff inner).mpr ⟨first, after, lexes, isParameter, rfl⟩]
      rfl
  | cons other others ih =>
      obtain ⟨comma, second⟩ := other
      obtain ⟨isParameter, isComma, following⟩ :=
        ParameterList.wellFormed_parameters_cons_iff.mp wellFormed
      obtain ⟨piece, rest, rfl, pieceLexes, restLexes⟩ :=
        (ParameterList.lexes_parameters_cons_iff isComma).mp lexes
      have noComma := pieceLexes.comma_not_mem isParameter.inType
      have here : parseParameter position (trim piece) = .ok (String.ofList (spelling first)) :=
        (parseParameter_eq_ok_iff fun c member => inner c (by simp [member])).mpr
          ⟨first, _, pieceLexes, isParameter, rfl⟩
      have further := ih (fun c member => inner c (by simp [member])) restLexes following
        (position + 1)
      rw [splitWhere_append_separator (by simp), splitWhere_comma noComma, List.singleton_append,
        parseParametersFrom_cons, here, further]
      rfl

theorem lexes_of_parseParametersFrom {cs : List Char} (inner : ∀ c ∈ cs, isInnerChar c = true)
    {position : Nat} {parameters : List String}
    (parsed : parseParametersFrom position (splitWhere (· == ',') cs) = .ok parameters) :
    ∃ first others after, Lexes cs (ParameterList.parameters first others).lexemes after ∧
      (ParameterList.parameters first others).WellFormed ∧
        parameters = (ParameterList.parameters first others).spellings := by
  generalize cut : splitWhere (· == ',') cs = pieces at parsed
  induction pieces generalizing cs position parameters with
  | nil => exact absurd cut (splitWhere_ne_nil _ cs)
  | cons piece pieces ih =>
      simp only [parseParametersFrom_cons, bind_eq_ok_iff] at parsed
      obtain ⟨parameter, isFirst, rest, isRest, whole⟩ := parsed
      cases whole
      rcases eq_of_splitWhere_eq_cons cut with ⟨rfl, rfl⟩ | ⟨separator, text, isComma, rfl, further⟩
      · obtain ⟨first, after, lexes, isParameter, rfl⟩ :=
          (parseParameter_eq_ok_iff inner).mp isFirst
        cases isRest
        refine ⟨first, [], after, ?_, ⟨isParameter, by simp⟩, rfl⟩
        rw [ParameterList.lexemes_parameters_nil]
        exact lexes
      · obtain ⟨first, gap, lexes, isParameter, rfl⟩ :=
          (parseParameter_eq_ok_iff fun c member => inner c (by simp [member])).mp isFirst
        obtain ⟨second, others, after, restLexes, following, rfl⟩ :=
          ih (fun c member => inner c (by simp [member])) further isRest
        obtain rfl := eq_of_beq isComma
        refine ⟨first, (⟨gap, lexes.blank, .comma⟩, second) :: others, after, ?_, ?_, rfl⟩
        · exact (ParameterList.lexes_parameters_cons_iff rfl).mpr
            ⟨piece, text, rfl, lexes, restLexes⟩
        · exact ParameterList.wellFormed_parameters_cons_iff.mpr ⟨isParameter, rfl, following⟩

theorem parseParameters_eq_ok_iff {cs : List Char} (inner : ∀ c ∈ cs, isInnerChar c = true)
    {parameters : List String} :
    parseParameters cs = .ok parameters ↔
      ∃ (list : ParameterList) (after : List Char), Lexes cs list.lexemes after ∧ list.WellFormed ∧
        parameters = list.spellings := by
  have onlyOne {list other : ParameterList} {after otherAfter : List Char}
      (lexes : Lexes cs list.lexemes after) (wellFormed : list.WellFormed)
      (otherLexes : Lexes cs other.lexemes otherAfter) (otherWellFormed : other.WellFormed) :
      list = other := wellFormed.eq_of_lexemes otherWellFormed (lexes.unique otherLexes).1
  by_cases isEmpty : trim cs = []
  · have blank := trim_eq_nil_iff.mp isEmpty
    have lexes : Lexes cs ParameterList.blank.lexemes cs := lexes_nil_iff.mpr
      ⟨rfl, fun c member => isAsciiBlank_of_isInnerChar (inner c member) (blank c member)⟩
    rw [parseParameters_of_nothing (.inl isEmpty), Except.ok.injEq]
    constructor
    · rintro rfl
      exact ⟨.blank, cs, lexes, trivial, rfl⟩
    · rintro ⟨list, after, otherLexes, wellFormed, rfl⟩
      rw [onlyOne otherLexes wellFormed lexes trivial]
      rfl
  by_cases isVoid : trim cs = ['v', 'o', 'i', 'd']
  · obtain ⟨word, behind, lexes, text⟩ :=
      (trim_eq_iff inner (by decide : isIdentifier ['v', 'o', 'i', 'd'] = true)).mp isVoid
    rw [parseParameters_of_nothing (.inr isVoid), Except.ok.injEq]
    constructor
    · rintro rfl
      exact ⟨.void word, behind, lexes, text, rfl⟩
    · rintro ⟨list, after, otherLexes, wellFormed, rfl⟩
      rw [(onlyOne otherLexes wellFormed lexes text : list = .void word)]
      rfl
  rw [parseParameters_eq isEmpty isVoid]
  constructor
  · intro parsed
    obtain ⟨first, others, after, lexes, wellFormed, rfl⟩ :=
      lexes_of_parseParametersFrom inner parsed
    exact ⟨.parameters first others, after, lexes, wellFormed, rfl⟩
  · rintro ⟨list, after, lexes, wellFormed, rfl⟩
    cases list with
    | blank =>
        obtain ⟨rfl, blank⟩ := lexes_nil_iff.mp lexes
        exact absurd (trim_eq_nil_iff.mpr fun c member => isBlank_of_isAsciiBlank (blank c member))
          isEmpty
    | void word =>
        exact absurd ((trim_eq_iff inner (by decide)).mpr ⟨word, after, lexes, wellFormed⟩) isVoid
    | parameters first others => exact parseParametersFrom_of_lexes inner lexes wellFormed 1

end Prototype
end BindingGen
