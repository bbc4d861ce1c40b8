import BindingGen.Proofs.Prototype.Tokens
import BindingGen.Prototype.Parse
import Mathlib.Data.List.Chain

/-!
# The grammar of prototypes

A text is read as lexemes: identifiers that are as long as they can be, and single characters with
a meaning of their own, each with the blanks in front of it.  A derivation is a tree over lexemes.
It says which of them make up the return type, the name and every parameter, and so which prototype
the text stands for.
-/

namespace BindingGen
namespace Prototype

open Text

/-- The terminal symbols of the grammar. -/
inductive Symbol where
  | word (text : List Char) (identifier : isIdentifier text = true)
  | star
  | opening
  | closing
  | comma

namespace Symbol

def text : Symbol → List Char
  | word text _ => text
  | star => ['*']
  | opening => ['(']
  | closing => [')']
  | comma => [',']

def isWord : Symbol → Bool
  | word _ _ => true
  | _ => false

/-- Whether a symbol can occur in a type. -/
def inType : Symbol → Bool
  | word _ _ | star => true
  | _ => false

end Symbol

/-- A symbol together with the blanks in front of it. -/
structure Lexeme where
  gap : List Char
  blank : ∀ c ∈ gap, isAsciiBlank c = true
  symbol : Symbol

/-- The characters that lexemes were read from. -/
def source (lexemes : List Lexeme) : List Char :=
  lexemes.flatMap fun lexeme => lexeme.gap ++ lexeme.symbol.text

/-- Words in a row have blanks between them, or else they would be one word. -/
def Apart (first second : Lexeme) : Prop :=
  first.symbol.isWord = true → second.symbol.isWord = true → second.gap ≠ []

/-- A text consists of lexemes and of blanks behind the last of them. -/
structure Lexes (cs : List Char) (lexemes : List Lexeme) (after : List Char) : Prop where
  whole : cs = source lexemes ++ after
  blank : ∀ c ∈ after, isAsciiBlank c = true
  apart : lexemes.IsChain Apart

/-- The text of lexemes with one space wherever there are blanks between two of them. -/
def spelling : List Lexeme → List Char
  | [] => []
  | first :: rest =>
    first.symbol.text ++ rest.flatMap fun lexeme =>
      (if lexeme.gap.isEmpty then [] else [' ']) ++ lexeme.symbol.text

/-! ## Derivations -/

/-- A type is an identifier followed by identifiers and stars. -/
def IsType : List Lexeme → Prop
  | [] => False
  | first :: rest => first.symbol.isWord = true ∧ ∀ lexeme ∈ rest, lexeme.symbol.inType = true

/-- A parameter is an identifier other than `void`, or a type with an identifier behind it. -/
inductive IsParameter : List Lexeme → Prop where
  | untyped {name : Lexeme} :
    name.symbol.isWord = true → name.symbol.text ≠ "void".toList → IsParameter [name]
  | typed {type : List Lexeme} {name : Lexeme} :
    IsType type → name.symbol.isWord = true → IsParameter (type ++ [name])

/-- What stands between the parentheses of a prototype. -/
inductive ParameterList where
  | blank
  | void (word : Lexeme)
  /-- Each parameter but the first comes after a comma. -/
  | parameters (first : List Lexeme) (others : List (Lexeme × List Lexeme))

namespace ParameterList

def lexemes : ParameterList → List Lexeme
  | blank => []
  | void word => [word]
  | parameters first others => first ++ others.flatMap fun other => other.1 :: other.2

/-- The lexemes of each parameter. -/
def each : ParameterList → List (List Lexeme)
  | blank | void _ => []
  | parameters first others => first :: others.map Prod.snd

def WellFormed : ParameterList → Prop
  | blank => True
  | void word => word.symbol.text = "void".toList
  | parameters first others =>
    IsParameter first ∧ ∀ other ∈ others, other.1.symbol = .comma ∧ IsParameter other.2

end ParameterList

/-- A return type, a name and a parameter list in parentheses. -/
structure Derivation where
  returnType : List Lexeme
  name : Lexeme
  opening : Lexeme
  list : ParameterList
  closing : Lexeme
  isType : IsType returnType
  isWord : name.symbol.isWord = true
  isOpening : opening.symbol = .opening
  wellFormed : list.WellFormed
  isClosing : closing.symbol = .closing

namespace Derivation

def lexemes (d : Derivation) : List Lexeme :=
  (d.returnType ++ [d.name]) ++ d.opening :: (d.list.lexemes ++ [d.closing])

/-- What a text with this derivation stands for. -/
def prototype (d : Derivation) : Prototype where
  name := String.ofList d.name.symbol.text
  parameters := d.list.each.map fun parameter => String.ofList (spelling parameter)
  returnType := String.ofList (spelling d.returnType)

end Derivation

/-! ## Characters of symbols -/

@[grind →]
theorem isWordChar_of_mem_text {symbol : Symbol} (word : symbol.isWord = true) {c : Char}
    (member : c ∈ symbol.text) : isWordChar c = true := by
  cases symbol with
  | word text identifier => exact isWordChar_of_mem_identifier identifier member
  | _ => cases word

theorem mem_text_of_not_isWord {symbol : Symbol} (notWord : symbol.isWord = false) {c : Char}
    (member : c ∈ symbol.text) : c = '*' ∨ c = '(' ∨ c = ')' ∨ c = ',' := by
  cases symbol with
  | word text identifier => cases notWord
  | _ => simp_all [Symbol.text]

@[grind →]
theorem isBlank_eq_false_of_mem_text {symbol : Symbol} {c : Char} (member : c ∈ symbol.text) :
    isBlank c = false := by
  cases word : symbol.isWord with
  | true => exact isBlank_eq_false_of_isWordChar (isWordChar_of_mem_text word member)
  | false => rcases mem_text_of_not_isWord word member with rfl | rfl | rfl | rfl <;> decide

theorem text_ne_nil (symbol : Symbol) : symbol.text ≠ [] := by
  cases symbol with
  | word text identifier =>
      rintro (rfl : text = [])
      cases identifier
  | _ => simp [Symbol.text]

/-- The character that a symbol starts with. -/
theorem exists_head?_text_append (symbol : Symbol) :
    ∃ c ∈ symbol.text, ∀ cs : List Char, (symbol.text ++ cs).head? = some c := by
  obtain ⟨c, text, shape⟩ := List.exists_cons_of_ne_nil (text_ne_nil symbol)
  exact ⟨c, by simp [shape], by simp [shape]⟩

/-- The character that a symbol ends with. -/
theorem exists_getLast?_append_text (symbol : Symbol) :
    ∃ c ∈ symbol.text, ∀ cs : List Char, (cs ++ symbol.text).getLast? = some c := by
  rcases List.eq_nil_or_concat symbol.text with isEmpty | ⟨text, c, shape⟩
  · exact absurd isEmpty (text_ne_nil symbol)
  · rw [List.concat_eq_append] at shape
    exact ⟨c, by simp [shape], by simp [shape]⟩

theorem isIdentifier_text {symbol : Symbol} (word : symbol.isWord = true) :
    isIdentifier symbol.text = true := by
  cases symbol with
  | word text identifier => exact identifier
  | _ => cases word

theorem Lexeme.isBlank_of_mem_gap (lexeme : Lexeme) {c : Char} (member : c ∈ lexeme.gap) :
    isBlank c = true :=
  isBlank_of_isAsciiBlank (lexeme.blank c member)

@[simp]
theorem source_nil : source [] = [] :=
  rfl

@[simp]
theorem source_append (first second : List Lexeme) :
    source (first ++ second) = source first ++ source second :=
  List.flatMap_append

@[simp]
theorem source_cons (lexeme : Lexeme) (rest : List Lexeme) :
    source (lexeme :: rest) = lexeme.gap ++ (lexeme.symbol.text ++ source rest) := by
  simp [source]

/-! ## Lexemes in a row -/

theorem Apart.of_not_isWord_left {first : Lexeme} (separator : first.symbol.isWord = false)
    (second : Lexeme) : Apart first second := by
  intro word
  rw [separator] at word
  cases word

theorem Apart.of_not_isWord_right {second : Lexeme} (separator : second.symbol.isWord = false)
    (first : Lexeme) : Apart first second := by
  intro _ word
  rw [separator] at word
  cases word

@[simp]
theorem lexes_nil_iff {cs after : List Char} :
    Lexes cs [] after ↔ cs = after ∧ ∀ c ∈ after, isAsciiBlank c = true := by
  constructor
  · intro lexes
    exact ⟨lexes.whole, lexes.blank⟩
  · rintro ⟨rfl, blank⟩
    exact ⟨rfl, blank, .nil⟩

theorem Lexes.mem {cs after : List Char} {lexemes : List Lexeme} (lexes : Lexes cs lexemes after)
    {c : Char} (member : c ∈ cs) :
    isAsciiBlank c = true ∨ ∃ lexeme ∈ lexemes, c ∈ lexeme.symbol.text := by
  obtain ⟨rfl, blank, -⟩ := lexes
  rcases List.mem_append.mp member with inSource | isAfter
  · obtain ⟨lexeme, inLexemes, inLexeme⟩ := List.mem_flatMap.mp inSource
    exact (List.mem_append.mp inLexeme).imp (lexeme.blank c)
      fun inText => ⟨lexeme, inLexemes, inText⟩
  · exact .inl (blank c isAfter)

/-- A text is cut around any of its lexemes. -/
theorem lexes_append_cons_iff {cs after : List Char} {before rest : List Lexeme}
    {lexeme : Lexeme} :
    Lexes cs (before ++ lexeme :: rest) after ↔
      (∀ last ∈ before.getLast?, Apart last lexeme) ∧ (∀ next ∈ rest.head?, Apart lexeme next) ∧
        ∃ first second, cs = first ++ (lexeme.symbol.text ++ second) ∧
          Lexes first before lexeme.gap ∧ Lexes second rest after := by
  constructor
  · rintro ⟨whole, blank, apart⟩
    obtain ⟨chained, following, joined⟩ := List.isChain_append.mp apart
    rw [List.isChain_cons] at following
    refine ⟨fun last isLast => joined last isLast lexeme rfl, following.1,
      source before ++ lexeme.gap, source rest ++ after, ?_, ⟨rfl, lexeme.blank, chained⟩,
      ⟨rfl, blank, following.2⟩⟩
    simpa using whole
  · rintro ⟨last, next, first, second, rfl, ⟨rfl, -, chained⟩, rfl, blank, following⟩
    refine ⟨by simp, blank, List.isChain_append.mpr ⟨chained, ?_, ?_⟩⟩
    · exact List.isChain_cons.mpr ⟨next, following⟩
    · rintro other isLast _ ⟨rfl⟩
      exact last other isLast

/-- A separator parts a text wherever it stands. -/
theorem lexes_append_separator_iff {cs after : List Char} {before rest : List Lexeme}
    {lexeme : Lexeme} (separator : lexeme.symbol.isWord = false) :
    Lexes cs (before ++ lexeme :: rest) after ↔
      ∃ first second, cs = first ++ (lexeme.symbol.text ++ second) ∧
        Lexes first before lexeme.gap ∧ Lexes second rest after := by
  rw [lexes_append_cons_iff]
  exact ⟨fun cut => cut.2.2, fun cut => ⟨fun last _ => .of_not_isWord_right separator last,
    fun next _ => .of_not_isWord_left separator next, cut⟩⟩

theorem lexes_cons_iff {cs after : List Char} {rest : List Lexeme} {lexeme : Lexeme} :
    Lexes cs (lexeme :: rest) after ↔
      (∀ next ∈ rest.head?, Apart lexeme next) ∧
        ∃ second, cs = lexeme.gap ++ (lexeme.symbol.text ++ second) ∧ Lexes second rest after := by
  constructor
  · rintro ⟨whole, blank, apart⟩
    rw [List.isChain_cons] at apart
    exact ⟨apart.1, source rest ++ after, by simpa using whole, rfl, blank, apart.2⟩
  · rintro ⟨next, _, rfl, rfl, blank, chained⟩
    exact ⟨by simp, blank, List.isChain_cons.mpr ⟨next, chained⟩⟩

/-- What follows a word starts with a blank or with a symbol that is no word. -/
theorem Lexes.starts {second after : List Char} {rest : List Lexeme} {lexeme : Lexeme}
    (lexes : Lexes second rest after) (word : lexeme.symbol.isWord = true)
    (apart : ∀ next ∈ rest.head?, Apart lexeme next) {c : Char} (first : c ∈ second.head?) :
    isBlank c = true ∨ ∃ next ∈ rest, next.symbol.isWord = false ∧ c ∈ next.symbol.text := by
  cases rest with
  | nil =>
      obtain ⟨rfl, blank⟩ := lexes_nil_iff.mp lexes
      exact .inl (isBlank_of_isAsciiBlank (blank c (List.mem_of_mem_head? first)))
  | cons next others =>
      obtain ⟨-, further, rfl, -⟩ := lexes_cons_iff.mp lexes
      cases spaced : next.gap with
      | cons d gap =>
          rw [spaced] at first
          obtain rfl : d = c := by simpa using first
          exact .inl (next.isBlank_of_mem_gap (by simp [spaced]))
      | nil =>
          obtain ⟨d, inText, isFirst⟩ := exists_head?_text_append next.symbol
          rw [spaced, List.nil_append, isFirst] at first
          obtain rfl : d = c := by simpa using first
          refine .inr ⟨next, List.mem_cons_self, ?_, inText⟩
          rw [← Bool.not_eq_true]
          exact fun alsoWord => apart next rfl word alsoWord spaced

end Prototype
end BindingGen
