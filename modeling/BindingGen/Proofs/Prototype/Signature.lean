import BindingGen.Proofs.Prototype.Derivation

/-!
# Signatures are read back

A signature has a derivation of its own: that of the text the prototype was read from, with the
blanks set anew.  It stands for the same prototype.
-/

namespace BindingGen
namespace Prototype

open Text

/-- A symbol with one space in front of it or with none. -/
def Lexeme.placed (spaced : Bool) (symbol : Symbol) : Lexeme where
  gap := if spaced then [' '] else []
  blank := by cases spaced <;> decide
  symbol := symbol

/-- Lexemes with their gaps as they are spelled; the first of them may be given one. -/
def respaced (spaced : Bool) : List Lexeme → List Lexeme
  | [] => []
  | first :: rest =>
    .placed spaced first.symbol :: rest.map fun lexeme =>
      .placed (!lexeme.gap.isEmpty) lexeme.symbol

theorem IsType.ne_nil {lexemes : List Lexeme} (isType : IsType lexemes) : lexemes ≠ [] := by
  rintro rfl
  cases isType

theorem IsParameter.ne_nil {lexemes : List Lexeme} (isParameter : IsParameter lexemes) :
    lexemes ≠ [] :=
  (isParameter_iff.mp isParameter).1.ne_nil

section Respaced

variable {lexemes : List Lexeme} (spaced : Bool)

theorem source_respaced (filled : lexemes ≠ []) :
    source (respaced spaced lexemes) = (if spaced then [' '] else []) ++ spelling lexemes := by
  cases lexemes with
  | nil => exact absurd rfl filled
  | cons first rest =>
      rw [respaced, source_cons, spelling, source, List.flatMap_map]
      have same (lexeme : Lexeme) :
          (Lexeme.placed (!lexeme.gap.isEmpty) lexeme.symbol).gap =
            if lexeme.gap.isEmpty then [] else [' '] := by
        cases lexeme.gap.isEmpty <;> rfl
      simp only [same]
      rfl

@[simp]
theorem spelling_respaced : spelling (respaced spaced lexemes) = spelling lexemes := by
  cases lexemes with
  | nil => rfl
  | cons first rest =>
      rw [respaced, spelling, spelling, List.flatMap_map]
      congr 2
      funext lexeme
      cases isEmpty : lexeme.gap.isEmpty <;> simp [Lexeme.placed]

theorem isChain_respaced (apart : lexemes.IsChain Apart) :
    (respaced spaced lexemes).IsChain Apart := by
  induction lexemes generalizing spaced with
  | nil => exact .nil
  | cons first rest ih =>
      cases rest with
      | nil => exact .singleton _
      | cons next others =>
          obtain ⟨here, further⟩ := List.isChain_cons_cons.mp apart
          refine List.isChain_cons_cons.mpr ⟨?_, ih (!next.gap.isEmpty) further⟩
          intro word alsoWord
          have gap := here word alsoWord
          simp [Lexeme.placed, gap]

theorem respaced_append_singleton (filled : lexemes ≠ []) (last : Lexeme) :
    respaced spaced (lexemes ++ [last]) =
      respaced spaced lexemes ++ [.placed (!last.gap.isEmpty) last.symbol] := by
  cases lexemes with
  | nil => exact absurd rfl filled
  | cons first rest => simp [respaced]

theorem IsType.respaced (isType : IsType lexemes) : IsType (respaced spaced lexemes) := by
  cases lexemes with
  | nil => cases isType
  | cons first rest =>
      refine ⟨isType.1, ?_⟩
      intro lexeme member
      obtain ⟨other, inRest, rfl⟩ := List.mem_map.mp member
      exact isType.2 other inRest

theorem IsParameter.respaced (isParameter : IsParameter lexemes) :
    IsParameter (respaced spaced lexemes) := by
  cases isParameter with
  | untyped isWord notVoid => exact .untyped isWord notVoid
  | typed isType isWord =>
      rw [respaced_append_singleton spaced isType.ne_nil]
      exact .typed (isType.respaced spaced) isWord

end Respaced

/-! ## Normal derivations -/

namespace ParameterList

/-- The list in a signature: nothing, or parameters behind a comma and a space. -/
def normal : ParameterList → ParameterList
  | blank | void _ => blank
  | parameters first others =>
    parameters (respaced false first)
      (others.map fun other => (.placed false .comma, respaced true other.2))

theorem WellFormed.normal {list : ParameterList} (wellFormed : list.WellFormed) :
    list.normal.WellFormed := by
  cases list with
  | blank => trivial
  | void word => trivial
  | parameters first others =>
      refine ⟨wellFormed.1.respaced false, ?_⟩
      intro other member
      obtain ⟨before, inOthers, rfl⟩ := List.mem_map.mp member
      exact ⟨rfl, (wellFormed.2 before inOthers).2.respaced true⟩

@[simp]
theorem spellings_normal (list : ParameterList) : list.normal.spellings = list.spellings := by
  cases list with
  | blank => rfl
  | void word => rfl
  | parameters first others =>
      simp [normal, spellings, each, Function.comp_def]

/-- The text of a list in a signature. -/
def text (list : ParameterList) : List Char :=
  (", ".intercalate list.spellings).toList

@[simp]
theorem text_parameters (first : List Lexeme) (others : List (Lexeme × List Lexeme)) :
    (parameters first others).text =
      spelling first ++ others.flatMap fun other => ',' :: ' ' :: spelling other.2 := by
  have separator : ", ".toList = [',', ' '] := rfl
  rw [text, spellings, each, String.toList_intercalate, separator]
  induction others generalizing first with
  | nil => simp
  | cons other others ih =>
      simp only [List.map_cons, List.intercalate_cons_cons] at ih ⊢
      rw [ih]
      simp

theorem lexes_normal_parameters (spaced : Bool) {first : List Lexeme}
    {others : List (Lexeme × List Lexeme)} {cs after : List Char}
    (lexes : Lexes cs (parameters first others).lexemes after)
    (wellFormed : (parameters first others).WellFormed) :
    Lexes ((if spaced then [' '] else []) ++ spelling first ++
        others.flatMap fun other => ',' :: ' ' :: spelling other.2)
      (parameters (respaced spaced first)
        (others.map fun other => (.placed false .comma, respaced true other.2))).lexemes [] := by
  induction others generalizing spaced first cs with
  | nil =>
      rw [lexemes_parameters_nil] at lexes
      rw [List.map_nil, lexemes_parameters_nil]
      have whole := source_respaced spaced wellFormed.1.ne_nil
      exact ⟨by simp [whole], by simp, isChain_respaced spaced lexes.apart⟩
  | cons other others ih =>
      obtain ⟨comma, second⟩ := other
      obtain ⟨isParameter, isComma, following⟩ := wellFormed_parameters_cons_iff.mp wellFormed
      obtain ⟨piece, rest, rfl, pieceLexes, restLexes⟩ :=
        (lexes_parameters_cons_iff isComma).mp lexes
      have further := ih true restLexes following
      have whole := source_respaced spaced isParameter.ne_nil
      refine (lexes_parameters_cons_iff rfl).mpr
        ⟨(if spaced then [' '] else []) ++ spelling first, _, ?_,
          ⟨by simp [whole, Lexeme.placed], by simp [Lexeme.placed],
            isChain_respaced spaced pieceLexes.apart⟩, further⟩
      simp

theorem lexes_normal {list : ParameterList} {cs after : List Char}
    (lexes : Lexes cs list.lexemes after) (wellFormed : list.WellFormed) :
    Lexes list.text list.normal.lexemes [] := by
  cases list with
  | blank => exact lexes_nil_iff.mpr ⟨rfl, by simp⟩
  | void word => exact lexes_nil_iff.mpr ⟨rfl, by simp⟩
  | parameters first others =>
      rw [text_parameters]
      exact lexes_normal_parameters false lexes wellFormed

end ParameterList

namespace Derivation

def normal (d : Derivation) : Derivation where
  returnType := respaced false d.returnType
  name := .placed true d.name.symbol
  opening := .placed false .opening
  list := d.list.normal
  closing := .placed false .closing
  isType := d.isType.respaced false
  isWord := d.isWord
  isOpening := rfl
  wellFormed := d.wellFormed.normal
  isClosing := rfl

@[simp]
theorem prototype_normal (d : Derivation) : d.normal.prototype = d.prototype := by
  have list := d.list.spellings_normal
  rw [ParameterList.spellings] at list
  simp only [prototype, normal, spelling_respaced]
  rw [list]
  rfl

theorem toList_signature (d : Derivation) :
    d.prototype.signature.toList =
      (spelling d.returnType ++ ' ' :: d.name.symbol.text) ++ '(' :: (d.list.text ++ [')']) := by
  simp [signature, prototype, ParameterList.text, ParameterList.spellings]

theorem lexes_signature {d : Derivation} {text : List Char} (lexes : Lexes text d.lexemes []) :
    Lexes d.prototype.signature.toList d.normal.lexemes [] := by
  obtain ⟨head, list, -, headLexes, listLexes⟩ := d.lexes_iff.mp lexes
  refine d.normal.lexes_iff.mpr ⟨_, _, d.toList_signature,
    ⟨?_, by simp [normal, Lexeme.placed], ?_⟩, ParameterList.lexes_normal listLexes d.wellFormed⟩
  · have whole := source_respaced false d.isType.ne_nil
    simp [normal, whole, Lexeme.placed]
  · obtain ⟨apart, -⟩ := List.isChain_append.mp headLexes.apart
    refine List.isChain_append.mpr ⟨isChain_respaced false apart, .singleton _, ?_⟩
    rintro last - _ ⟨rfl⟩ - -
    simp [normal, Lexeme.placed]

theorem trimmed_signature (d : Derivation) : Trimmed d.prototype.signature.toList := by
  obtain ⟨first, rest, isType⟩ := List.exists_cons_of_ne_nil d.isType.ne_nil
  obtain ⟨c, inText, isFirst⟩ := exists_head?_text_append first.symbol
  constructor
  · intro other isOther
    rw [toList_signature, isType, spelling] at isOther
    simp only [List.append_assoc, isFirst, Option.mem_def, Option.some.injEq] at isOther
    subst isOther
    exact isBlank_eq_false_of_mem_text inText
  · intro other isOther
    have last : other = ')' := by
      simp only [toList_signature, ← List.cons_append, ← List.append_assoc, List.getLast?_concat,
        Option.mem_def, Option.some.injEq] at isOther
      exact isOther.symm
    rw [last]
    decide

end Derivation

theorem parse_signature {line : String} {p : Prototype} (parsed : parse line = .ok p) :
    parse p.signature = .ok p := by
  obtain ⟨d, lexes, rfl⟩ := parseTrimmed_eq_ok_iff.mp parsed
  refine parseTrimmed_eq_ok_iff.mpr ⟨d.normal, ?_, d.prototype_normal⟩
  rw [trim_of_trimmed d.trimmed_signature]
  exact Derivation.lexes_signature lexes

/-- Every character of a signature has a meaning in the grammar. -/
theorem mark_not_mem_signature {line : String} {p : Prototype} (parsed : parse line = .ok p) :
    '\uFEFF' ∉ p.signature.toList := by
  obtain ⟨d, lexes, rfl⟩ := parseTrimmed_eq_ok_iff.mp parsed
  intro member
  rcases (Derivation.lexes_signature lexes).mem member with blank | ⟨lexeme, -, inText⟩
  · cases blank
  · cases isWord : lexeme.symbol.isWord with
    | true => cases isWordChar_of_mem_text isWord inText
    | false =>
        rcases mem_text_of_not_isWord isWord inText with same | same | same | same <;> cases same

end Prototype
end BindingGen
