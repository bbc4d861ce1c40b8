import BindingGen.Proofs.Prototype.Lexing
import BindingGen.Proofs.Prototype.Pieces

/-!
# Reading what stands before the parenthesis

A text is taken for a type exactly when its lexemes are those of a type.  The text in front of the
opening parenthesis is read when it is a type and a word behind it, and it gives the spelling of
the type and the word.
-/

namespace BindingGen
namespace Prototype

open Text

/-! ## Types -/

theorem inType_of_isWord {symbol : Symbol} (word : symbol.isWord = true) :
    symbol.inType = true := by
  cases symbol with
  | word text identifier => rfl
  | _ => cases word

theorem ne_of_inType {symbol : Symbol} (inType : symbol.inType = true) :
    symbol ≠ .opening ∧ symbol ≠ .closing ∧ symbol ≠ .comma := by
  refine ⟨?_, ?_, ?_⟩ <;> rintro rfl <;> cases inType

theorem IsType.inType {lexemes : List Lexeme} (isType : IsType lexemes) :
    ∀ lexeme ∈ lexemes, lexeme.symbol.inType = true := by
  cases lexemes with
  | nil => cases isType
  | cons first rest =>
      intro lexeme member
      rcases List.mem_cons.mp member with rfl | later
      · exact inType_of_isWord isType.1
      · exact isType.2 lexeme later

theorem isIdentifier_token {symbol : Symbol} (inType : symbol.inType = true) :
    symbol.token.isIdentifier = symbol.isWord := by
  cases symbol with
  | word text identifier => exact identifier
  | star => rfl
  | _ => cases inType

theorem star_or_isIdentifier_token {symbol : Symbol} (inType : symbol.inType = true) :
    symbol.token = .star ∨ symbol.token.isIdentifier = true := by
  cases symbol with
  | word text identifier => exact .inr identifier
  | star => exact .inl rfl
  | _ => cases inType

theorem isType_map_token_iff {lexemes : List Lexeme}
    (inType : ∀ lexeme ∈ lexemes, lexeme.symbol.inType = true) :
    Token.isType (lexemes.map fun lexeme => lexeme.symbol.token) = true ↔ IsType lexemes := by
  cases lexemes with
  | nil => simp [Token.isType, IsType]
  | cons first rest =>
      have restInType := fun lexeme member => inType lexeme (List.mem_cons_of_mem first member)
      have proper : ∀ lexeme ∈ rest,
          (lexeme.symbol.token == .star || lexeme.symbol.token.isIdentifier) = true := by
        intro lexeme member
        simpa using star_or_isIdentifier_token (restInType lexeme member)
      simp only [List.map_cons, Token.isType, Bool.and_eq_true, List.all_map, List.all_eq_true,
        isIdentifier_token (inType first List.mem_cons_self), IsType]
      exact ⟨fun isType => ⟨isType.1, restInType⟩, fun isType => ⟨isType.1, proper⟩⟩

theorem proper_of_isType {tokens : List Token} (isType : Token.isType tokens = true) :
    ∀ token ∈ tokens, token = .star ∨ token.isIdentifier = true := by
  cases tokens with
  | nil => cases isType
  | cons first rest =>
      simp only [Token.isType, Bool.and_eq_true, List.all_eq_true, Bool.or_eq_true, beq_iff_eq]
        at isType
      intro token member
      rcases List.mem_cons.mp member with rfl | later
      · exact .inr isType.1
      · exact isType.2 token later

theorem isType_ofText_iff {cs : List Char} (inner : ∀ c ∈ cs, isInnerChar c = true) :
    Token.isType (Token.ofText cs) = true ↔
      ∃ lexemes after, Lexes cs lexemes after ∧ IsType lexemes := by
  constructor
  · intro isType
    obtain ⟨lexemes, after, lexes, inType⟩ :=
      lexical_of_tokens (fun c member => isAsciiBlank_of_isInnerChar (inner c member))
        (proper_of_isType isType)
    rw [lexes.ofText inType] at isType
    exact ⟨lexemes, after, lexes, (isType_map_token_iff inType).mp isType⟩
  · rintro ⟨lexemes, after, lexes, isType⟩
    rw [lexes.ofText isType.inType]
    exact (isType_map_token_iff isType.inType).mpr isType

/-! ## Return type and name -/

theorem exists_getLast?_source {lexemes : List Lexeme} {last : Lexeme}
    (isLast : last ∈ lexemes.getLast?) :
    ∃ c ∈ last.symbol.text, (source lexemes).getLast? = some c := by
  obtain ⟨front, rfl⟩ : ∃ front, lexemes = front ++ [last] :=
    ⟨_, (List.dropLast_append_getLast? last isLast).symm⟩
  obtain ⟨c, inText, endsIn⟩ := exists_getLast?_append_text last.symbol
  refine ⟨c, inText, ?_⟩
  simpa [source] using endsIn (source front ++ last.gap)

/-- A word is apart from the lexeme in front of it when no word character precedes it. -/
theorem apart_iff_stop {front : List Char} {lexemes : List Lexeme} {name : Lexeme}
    (lexes : Lexes front lexemes name.gap) (isWord : name.symbol.isWord = true) :
    (∀ last ∈ lexemes.getLast?, Apart last name) ↔
      ∀ c ∈ front.getLast?, isWordChar c = false := by
  obtain ⟨rfl, blank, -⟩ := lexes
  rcases List.eq_nil_or_concat name.gap with together | ⟨gap, d, spaced⟩
  · rw [together, List.append_nil]
    cases isLast : lexemes.getLast? with
    | none =>
        obtain rfl := List.getLast?_eq_none_iff.mp isLast
        simp [source]
    | some last =>
        obtain ⟨c, inText, endsIn⟩ := exists_getLast?_source (Option.mem_def.mpr isLast)
        simp [endsIn, Apart, together, isWord, isWordChar_eq_isWord inText]
  · rw [List.concat_eq_append] at spaced
    have notWord : isWordChar d = false := by
      rw [← Bool.not_eq_true]
      intro word
      have inGap : d ∈ name.gap := by simp [spaced]
      have isBlank := name.isBlank_of_mem_gap inGap
      rw [isBlank_eq_false_of_isWordChar word] at isBlank
      cases isBlank
    simp [spaced, Apart, notWord]

theorem splitHead_eq_ok_iff {head : List Char} (inner : ∀ c ∈ head, isInnerChar c = true)
    {returnType name : String} :
    splitHead (trimEnd head) = .ok (returnType, name) ↔
      ∃ (type : List Lexeme) (word : Lexeme) (after : List Char),
        Lexes head (type ++ [word]) after ∧ IsType type ∧ word.symbol.isWord = true ∧
          returnType = String.ofList (spelling type) ∧ name = String.ofList word.symbol.text := by
  constructor
  · intro parsed
    obtain ⟨after, blank, shape⟩ := exists_trimEnd_append head
    obtain ⟨front, word, pieces, inWord, stop⟩ := exists_append_word (trimEnd head)
    rw [pieces] at shape parsed
    rw [shape] at inner
    have frontInner : ∀ c ∈ front, isInnerChar c = true :=
      fun c member => inner c (by simp [member])
    obtain ⟨identifier, isType, rfl, rfl⟩ :=
      (splitHead_append_eq_ok_iff frontInner inWord stop).mp parsed
    obtain ⟨type, gap, lexes, typed⟩ := (isType_ofText_iff frontInner).mp isType
    have afterBlank : ∀ c ∈ after, isAsciiBlank c = true := fun c member =>
      isAsciiBlank_of_isInnerChar (inner c (by simp [member])) (blank c member)
    let lexeme : Lexeme := ⟨gap, lexes.blank, .word word identifier⟩
    have lexesName : Lexes after [] after := lexes_nil_iff.mpr ⟨rfl, afterBlank⟩
    refine ⟨type, lexeme, after, lexes_append_cons_iff.mpr ⟨?_, by simp, front, after, ?_, lexes,
      lexesName⟩, typed, rfl, by rw [lexes.collapseBlanks], rfl⟩
    · exact (apart_iff_stop lexes rfl).mpr stop
    · rw [shape, List.append_assoc]
      rfl
  · rintro ⟨type, word, after, lexes, isType, isWord, rfl, rfl⟩
    obtain ⟨apart, -, front, second, rfl, frontLexes, secondLexes⟩ := lexes_append_cons_iff.mp lexes
    obtain ⟨rfl, blank⟩ := lexes_nil_iff.mp secondLexes
    have frontInner : ∀ c ∈ front, isInnerChar c = true :=
      fun c member => inner c (by simp [member])
    have filled : ∀ c ∈ (front ++ word.symbol.text).getLast?, isBlank c = false := by
      obtain ⟨c, inText, endsIn⟩ := exists_getLast?_append_text word.symbol
      simpa [endsIn] using isBlank_eq_false_of_mem_text inText
    have alsoBlank := fun c member => isBlank_of_isAsciiBlank (blank c member)
    have typed := (isType_ofText_iff frontInner).mpr ⟨type, _, frontLexes, isType⟩
    rw [← List.append_assoc, trimEnd_append filled alsoBlank,
      splitHead_append_eq_ok_iff frontInner
        (fun c member => isWordChar_of_mem_text isWord member)
        ((apart_iff_stop frontLexes isWord).mp apart)]
    exact ⟨isIdentifier_text isWord, typed, by rw [frontLexes.collapseBlanks], rfl⟩

end Prototype
end BindingGen
