import BindingGen.Proofs.Prototype.Grammar

/-!
# Reading a text as lexemes

A text is read as lexemes in at most one way.  For a text of identifiers and stars there is such a
way, its symbols are the tokens of the text, and collapsing the blanks of the text gives the
spelling of the lexemes.
-/

namespace BindingGen
namespace Prototype

open Text

/-- The token that a symbol of a type stands for. -/
def Symbol.token : Symbol → Token
  | .star => .star
  | symbol => .word symbol.text

/-- The symbols of a type text are its tokens. -/
theorem Lexes.ofText {cs after : List Char} {lexemes : List Lexeme}
    (lexes : Lexes cs lexemes after) (inType : ∀ lexeme ∈ lexemes, lexeme.symbol.inType = true) :
    Token.ofText cs = lexemes.map fun lexeme => lexeme.symbol.token := by
  induction lexemes generalizing cs with
  | nil =>
      obtain ⟨rfl, blank⟩ := lexes_nil_iff.mp lexes
      exact Token.ofText_of_blank fun c member => isBlank_of_isAsciiBlank (blank c member)
  | cons lexeme rest ih =>
      obtain ⟨apart, second, rfl, further⟩ := lexes_cons_iff.mp lexes
      have here := inType lexeme List.mem_cons_self
      have restInType := fun other member => inType other (List.mem_cons_of_mem lexeme member)
      rw [Token.ofText_blanks_append fun _ => lexeme.isBlank_of_mem_gap, List.map_cons,
        ← ih further restInType]
      cases symbol : lexeme.symbol with
      | star => exact Token.ofText_star_cons second
      | word text identifier =>
          have isWord : lexeme.symbol.isWord = true := by rw [symbol]; rfl
          refine Token.ofText_word_append (text_ne_nil (.word text identifier)) ?_ ?_
          · intro c member
            have wordChar := isWordChar_of_mem_identifier identifier member
            refine ⟨isBlank_eq_false_of_isWordChar wordChar, ?_⟩
            rintro rfl
            cases wordChar
          · intro c first
            refine (further.starts isWord apart first).imp_right ?_
            rintro ⟨next, member, notWord, inText⟩
            have nextInType := restInType next member
            cases kind : next.symbol <;> simp_all [Symbol.isWord, Symbol.inType, Symbol.text]
      | _ =>
          rw [symbol] at here
          cases here

/-- Collapsing the blanks of a text leaves one space wherever there are some between lexemes. -/
theorem Lexes.collapseBlanks {cs after : List Char} {lexemes : List Lexeme}
    (lexes : Lexes cs lexemes after) : Text.collapseBlanks cs = spelling lexemes := by
  have continued {word second : List Char} (filled : ∀ c ∈ word, isBlank c = false)
      (notEmpty : word ≠ []) {rest : List Lexeme} (further : Lexes second rest after) :
      Text.collapseBlanks (word ++ second) = word ++ rest.flatMap fun lexeme =>
        (if lexeme.gap.isEmpty then [] else [' ']) ++ lexeme.symbol.text := by
    induction rest generalizing word second with
    | nil =>
        obtain ⟨rfl, blank⟩ := lexes_nil_iff.mp further
        rw [collapseBlanks_append_blanks fun c member => isBlank_of_isAsciiBlank (blank c member),
          collapseBlanks_of_filled filled notEmpty]
        simp
    | cons next others ih =>
        obtain ⟨-, last, rfl, remaining⟩ := lexes_cons_iff.mp further
        have nextFilled : ∀ c ∈ next.symbol.text, isBlank c = false :=
          fun c member => isBlank_eq_false_of_mem_text member
        by_cases joined : next.gap = []
        · have bothFilled : ∀ c ∈ word ++ next.symbol.text, isBlank c = false := by
            intro c member
            exact (List.mem_append.mp member).elim (filled c) (nextFilled c)
          have both := ih bothFilled (by simp [notEmpty]) remaining
          simpa [joined] using both
        · have continues : words (next.symbol.text ++ last) ≠ [] := by
            obtain ⟨d, ds, text⟩ := List.exists_cons_of_ne_nil (text_ne_nil next.symbol)
            rw [text]
            exact words_cons_ne_nil (nextFilled d (by simp [text])) (ds ++ last)
          rw [collapseBlanks_append filled notEmpty (fun _ => next.isBlank_of_mem_gap) joined
            continues, ih nextFilled (text_ne_nil _) remaining]
          simp [joined]
  cases lexemes with
  | nil =>
      obtain ⟨rfl, blank⟩ := lexes_nil_iff.mp lexes
      have alsoBlank := fun c member => isBlank_of_isAsciiBlank (blank c member)
      rw [Text.collapseBlanks, words_of_blank alsoBlank]
      rfl
  | cons lexeme rest =>
      obtain ⟨-, second, rfl, further⟩ := lexes_cons_iff.mp lexes
      rw [collapseBlanks_blanks_append fun _ => lexeme.isBlank_of_mem_gap]
      exact continued (fun c member => isBlank_eq_false_of_mem_text member) (text_ne_nil _) further

/-! ## Existence -/

/-- A text that can be read as identifiers and stars. -/
def Lexical (cs : List Char) : Prop :=
  ∃ lexemes after, Lexes cs lexemes after ∧ ∀ lexeme ∈ lexemes, lexeme.symbol.inType = true

theorem lexical_nil : Lexical [] :=
  ⟨[], [], lexes_nil_iff.mpr ⟨rfl, by simp⟩, by simp⟩

theorem Lexical.blank_cons {cs : List Char} (lexical : Lexical cs) {c : Char}
    (blank : isAsciiBlank c = true) : Lexical (c :: cs) := by
  obtain ⟨lexemes, after, lexes, inType⟩ := lexical
  cases lexemes with
  | nil =>
      obtain ⟨rfl, blanks⟩ := lexes_nil_iff.mp lexes
      exact ⟨[], c :: cs, lexes_nil_iff.mpr ⟨rfl, by simpa [blank] using blanks⟩, by simp⟩
  | cons first rest =>
      obtain ⟨apart, second, rfl, further⟩ := lexes_cons_iff.mp lexes
      have blanks : ∀ d ∈ c :: first.gap, isAsciiBlank d = true := by
        simpa [blank] using first.blank
      exact ⟨⟨c :: first.gap, blanks, first.symbol⟩ :: rest, after,
        lexes_cons_iff.mpr ⟨apart, second, rfl, further⟩, by simpa using inType⟩

theorem Lexical.star_cons {cs : List Char} (lexical : Lexical cs) : Lexical ('*' :: cs) := by
  obtain ⟨lexemes, after, lexes, inType⟩ := lexical
  refine ⟨⟨[], by simp, .star⟩ :: lexemes, after, lexes_cons_iff.mpr
    ⟨fun next _ => .of_not_isWord_left rfl next, cs, rfl, lexes⟩, ?_⟩
  simpa [Symbol.inType] using inType

theorem Lexical.word_append {cs : List Char} (lexical : Lexical cs) {word : List Char}
    (identifier : isIdentifier word = true) (stops : ∀ c ∈ cs.head?, isBlank c = true ∨ c = '*') :
    Lexical (word ++ cs) := by
  obtain ⟨lexemes, after, lexes, inType⟩ := lexical
  refine ⟨⟨[], by simp, .word word identifier⟩ :: lexemes, after, lexes_cons_iff.mpr
    ⟨?_, cs, rfl, lexes⟩, by simpa [Symbol.inType] using inType⟩
  intro next isNext _ alsoWord together
  obtain ⟨others, rfl⟩ : ∃ others, lexemes = next :: others :=
    ⟨_, List.eq_cons_of_mem_head? isNext⟩
  obtain ⟨-, second, rfl, -⟩ := lexes_cons_iff.mp lexes
  obtain ⟨c, inText, isFirst⟩ := exists_head?_text_append next.symbol
  have wordChar := isWordChar_of_mem_text alsoWord inText
  rcases stops c (by simp [together, isFirst]) with blank | rfl
  · rw [isBlank_eq_false_of_isWordChar wordChar] at blank
    cases blank
  · cases wordChar

theorem lexical_of_tokens {cs : List Char}
    (blanks : ∀ c ∈ cs, isBlank c = true → isAsciiBlank c = true)
    (proper : ∀ token ∈ Token.ofText cs, token = .star ∨ token.isIdentifier = true) :
    Lexical cs := by
  induction cs using Token.textInduction with
  | nil => exact lexical_nil
  | blank c cs blank ih =>
      rw [Token.ofText_blank_cons blank] at proper
      have lexical := ih (fun d member => blanks d (List.mem_cons_of_mem c member)) proper
      exact lexical.blank_cons (blanks c List.mem_cons_self blank)
  | star cs ih =>
      rw [Token.ofText_star_cons] at proper
      exact (ih (fun d member => blanks d (List.mem_cons_of_mem _ member))
        fun token member => proper token (List.mem_cons_of_mem _ member)).star_cons
  | word word rest notEmpty inWord stops ih =>
      rw [Token.ofText_word_append notEmpty inWord stops] at proper
      have lexical := ih (fun d member => blanks d (List.mem_append_right word member))
        fun token member => proper token (List.mem_cons_of_mem _ member)
      have identifier := proper (.word word) List.mem_cons_self
      exact lexical.word_append (by simpa [Token.isIdentifier] using identifier) stops

/-! ## Uniqueness -/

theorem eq_of_blanks_append {gap otherGap cs ds : List Char}
    (blank : ∀ c ∈ gap, isBlank c = true) (start : ∀ c ∈ cs.head?, isBlank c = false)
    (alsoBlank : ∀ c ∈ otherGap, isBlank c = true) (alsoStart : ∀ c ∈ ds.head?, isBlank c = false)
    (equal : gap ++ cs = otherGap ++ ds) : gap = otherGap ∧ cs = ds := by
  have trimmed := congrArg trimStart equal
  rw [trimStart_append blank start, trimStart_append alsoBlank alsoStart] at trimmed
  rw [trimmed] at equal
  exact ⟨List.append_cancel_right equal, trimmed⟩

theorem isWordChar_eq_isWord {symbol : Symbol} {c : Char} (member : c ∈ symbol.text) :
    isWordChar c = symbol.isWord := by
  cases word : symbol.isWord with
  | true => exact isWordChar_of_mem_text word member
  | false => rcases mem_text_of_not_isWord word member with rfl | rfl | rfl | rfl <;> decide

theorem Symbol.length_text {symbol : Symbol} (notWord : symbol.isWord = false) :
    symbol.text.length = 1 := by
  cases symbol with
  | word text identifier => cases notWord
  | _ => rfl

theorem Symbol.eq_of_text {first second : Symbol} (same : first.text = second.text) :
    first = second := by
  have notWord {text : List Char} (identifier : isIdentifier text = true) {c : Char}
      (isText : text = [c]) (foreign : isWordChar c = false) : False := by
    subst isText
    rw [isWordChar_of_mem_identifier identifier (List.mem_singleton_self c)] at foreign
    cases foreign
  cases first with
  | word text identifier =>
      cases second with
      | word other alsoIdentifier =>
          obtain rfl : text = other := same
          rfl
      | _ => exact (notWord identifier same rfl).elim
  | _ =>
      cases second with
      | word other alsoIdentifier => exact (notWord alsoIdentifier same.symm rfl).elim
      | _ => first | rfl | cases same

theorem eq_of_text_append {first second : Symbol} {cs ds : List Char}
    (stops : first.isWord = true → ∀ c ∈ cs.head?, isWordChar c = false)
    (alsoStops : second.isWord = true → ∀ c ∈ ds.head?, isWordChar c = false)
    (equal : first.text ++ cs = second.text ++ ds) : first = second ∧ cs = ds := by
  have dropped {symbol : Symbol} {rest : List Char} (word : symbol.isWord = true)
      (stops : ∀ c ∈ rest.head?, isWordChar c = false) :
      (symbol.text ++ rest).dropWhile isWordChar = rest := by
    rw [List.dropWhile_append_of_pos fun c member => isWordChar_of_mem_text word member]
    cases rest with
    | nil => rfl
    | cons c rest => simp [stops c rfl]
  have sameKind : first.isWord = second.isWord := by
    obtain ⟨c, inFirst, isFirst⟩ := exists_head?_text_append first
    obtain ⟨d, inSecond, isSecond⟩ := exists_head?_text_append second
    have same : some c = some d := by rw [← isFirst cs, equal, isSecond ds]
    rw [← isWordChar_eq_isWord inFirst, ← isWordChar_eq_isWord inSecond, Option.some.inj same]
  cases word : first.isWord with
  | true =>
      have alsoWord := sameKind ▸ word
      have rest := congrArg (List.dropWhile isWordChar) equal
      rw [dropped word (stops word), dropped alsoWord (alsoStops alsoWord)] at rest
      rw [rest] at equal
      exact ⟨Symbol.eq_of_text (List.append_cancel_right equal), rest⟩
  | false =>
      have alsoNotWord := sameKind ▸ word
      have lengths := (Symbol.length_text word).trans (Symbol.length_text alsoNotWord).symm
      obtain ⟨sameText, rest⟩ := List.append_inj equal lengths
      exact ⟨Symbol.eq_of_text sameText, rest⟩

theorem Lexes.isWordChar_eq_false_of_starts {second after : List Char} {rest : List Lexeme}
    {lexeme : Lexeme} (lexes : Lexes second rest after)
    (apart : ∀ next ∈ rest.head?, Apart lexeme next) (word : lexeme.symbol.isWord = true)
    (c : Char) (first : c ∈ second.head?) : isWordChar c = false := by
  rw [← Bool.not_eq_true]
  intro wordChar
  rcases lexes.starts word apart first with blank | ⟨next, -, notWord, inText⟩
  · rw [isBlank_eq_false_of_isWordChar wordChar] at blank
    cases blank
  · rcases mem_text_of_not_isWord notWord inText with rfl | rfl | rfl | rfl <;> cases wordChar

/-- There is only one way to read a text as lexemes. -/
theorem Lexes.unique {cs after otherAfter : List Char} {lexemes others : List Lexeme}
    (lexes : Lexes cs lexemes after) (otherLexes : Lexes cs others otherAfter) :
    lexemes = others ∧ after = otherAfter := by
  have notBlank {lexeme : Lexeme} {gap second : List Char}
      (blank : ∀ c ∈ gap ++ (lexeme.symbol.text ++ second), isAsciiBlank c = true) : False := by
    obtain ⟨c, member, -⟩ := exists_head?_text_append lexeme.symbol
    have isBlank := isBlank_of_isAsciiBlank (blank c (by simp [member]))
    rw [isBlank_eq_false_of_mem_text member] at isBlank
    cases isBlank
  induction lexemes generalizing cs others with
  | nil =>
      obtain ⟨rfl, blank⟩ := lexes_nil_iff.mp lexes
      cases others with
      | nil => exact ⟨rfl, (lexes_nil_iff.mp otherLexes).1⟩
      | cons other rest =>
          obtain ⟨-, second, rfl, -⟩ := lexes_cons_iff.mp otherLexes
          exact (notBlank blank).elim
  | cons lexeme rest ih =>
      obtain ⟨apart, second, shape, further⟩ := lexes_cons_iff.mp lexes
      cases others with
      | nil =>
          obtain ⟨rfl, blank⟩ := lexes_nil_iff.mp otherLexes
          exact (notBlank (shape ▸ blank)).elim
      | cons other others =>
          obtain ⟨otherApart, otherSecond, otherShape, otherFurther⟩ := lexes_cons_iff.mp otherLexes
          have filled {symbol : Symbol} {ds : List Char} :
              ∀ c ∈ (symbol.text ++ ds).head?, isBlank c = false := by
            intro c first
            obtain ⟨d, inText, isFirst⟩ := exists_head?_text_append symbol
            rw [isFirst] at first
            obtain rfl : d = c := by simpa using first
            exact isBlank_eq_false_of_mem_text inText
          obtain ⟨sameGap, sameRest⟩ := eq_of_blanks_append (fun _ => lexeme.isBlank_of_mem_gap)
            filled (fun _ => other.isBlank_of_mem_gap) filled (shape.symm.trans otherShape)
          obtain ⟨sameSymbol, rfl⟩ := eq_of_text_append
            (further.isWordChar_eq_false_of_starts apart)
            (otherFurther.isWordChar_eq_false_of_starts otherApart) sameRest
          obtain ⟨rfl, sameAfter⟩ := ih further otherFurther
          obtain ⟨gap, blank, symbol⟩ := lexeme
          obtain ⟨otherGap, otherBlank, otherSymbol⟩ := other
          obtain rfl : gap = otherGap := sameGap
          obtain rfl : symbol = otherSymbol := sameSymbol
          exact ⟨rfl, sameAfter⟩

end Prototype
end BindingGen
