import BindingGen.Proofs.Prototype.Parameters

/-!
# The fault that is blamed

A text may have many faults, and reading reports one of them: those of its characters and
parentheses come first, then those of the text in front of the parentheses, then those of the
first parameter that has any.  All of this is said of the text itself and not of the offsets at
which reading cuts it.
-/

namespace BindingGen
namespace Prototype

open Text

/-- The text is a type, with blanks around its lexemes. -/
def IsTypeText (cs : List Char) : Prop :=
  ∃ lexemes after, Lexes cs lexemes after ∧ IsType lexemes

/-- The text is a parameter, with blanks around its lexemes. -/
def IsParameterText (cs : List Char) : Prop :=
  ∃ lexemes after, Lexes cs lexemes after ∧ IsParameter lexemes

/-! ## Faults -/

/-- Faults of the characters and parentheses. -/
inductive Misshapen (text : List Char) : Fault → Prop where
  | empty : text = [] → Misshapen text .empty
  | unsupportedCharacter {before after : List Char} {c : Char} :
    text = before ++ c :: after → (∀ d ∈ before, isAllowedChar d = true) →
      isAllowedChar c = false → Misshapen text (.unsupportedCharacter c)
  | missingOpenParenthesis :
    text ≠ [] → (∀ c ∈ text, isAllowedChar c = true) → '(' ∉ text →
      Misshapen text .missingOpenParenthesis
  | missingCloseParenthesis :
    (∀ c ∈ text, isAllowedChar c = true) → '(' ∈ text → text.getLast? ≠ some ')' →
      Misshapen text .missingCloseParenthesis
  | nestedParentheses :
    (∀ c ∈ text, isAllowedChar c = true) → '(' ∈ text → text.getLast? = some ')' →
      1 < text.count '(' ∨ 1 < text.count ')' → Misshapen text .nestedParentheses

/-- A text with one pair of parentheses, the second of them at its end. -/
structure Parenthesized (text head list : List Char) : Prop where
  whole : text = head ++ '(' :: (list ++ [')'])
  inner : ∀ c ∈ head ++ list, isInnerChar c = true

/-- The last characters of a text, but for blanks, are a word, and it is as long as it can be. -/
structure EndsInWord (head front word : List Char) : Prop where
  whole : ∃ after, head = front ++ word ++ after ∧ ∀ c ∈ after, isBlank c = true
  filled : word ≠ []
  inWord : ∀ c ∈ word, isWordChar c = true
  stop : ∀ c ∈ front.getLast?, isWordChar c = false

def startsWithDigit (word : List Char) : Bool :=
  word.head?.any Char.isDigit

/-- Faults of the text in front of the parentheses. -/
inductive FaultyHead (head : List Char) : Fault → Prop where
  | missingName :
    (∀ c ∈ (trimEnd head).getLast?, isWordChar c = false) → FaultyHead head .missingName
  | invalidName {front word : List Char} :
    EndsInWord head front word → startsWithDigit word = true →
      FaultyHead head (.invalidName (String.ofList word))
  | missingReturnType {front word : List Char} :
    EndsInWord head front word → startsWithDigit word = false →
      (∀ c ∈ front, isBlank c = true) → FaultyHead head .missingReturnType
  | invalidReturnType {front word : List Char} :
    EndsInWord head front word → startsWithDigit word = false →
      (∃ c ∈ front, isBlank c = false) → ¬ IsTypeText front →
        FaultyHead head (.invalidReturnType (String.ofList (trim front)))

/-- The first segment between commas that is no parameter. -/
structure FirstOffending (list : List Char) (position : Nat) (segment : List Char) : Prop where
  filled : trim list ≠ []
  notVoid : trim list ≠ "void".toList
  first : ∃ before after, splitWhere (· == ',') list = before ++ segment :: after ∧
    position = before.length + 1 ∧ ∀ other ∈ before, IsParameterText other
  offends : ¬ IsParameterText segment

/-- Faults of the text between the parentheses. -/
inductive FaultyList (list : List Char) : Fault → Prop where
  | emptyParameter {position : Nat} {segment : List Char} :
    FirstOffending list position segment → trim segment = [] →
      FaultyList list (.emptyParameter position)
  | invalidParameter {position : Nat} {segment : List Char} :
    FirstOffending list position segment → trim segment ≠ [] →
      FaultyList list (.invalidParameter (String.ofList (trim segment)))

/-- The fault that a text is to be blamed for. -/
inductive Blames (text : List Char) : Fault → Prop where
  | shape {fault : Fault} : Misshapen text fault → Blames text fault
  | head {head list : List Char} {fault : Fault} :
    Parenthesized text head list → FaultyHead head fault → Blames text fault
  | list {head list : List Char} {fault : Fault} :
    Parenthesized text head list → (∀ other, ¬ FaultyHead head other) →
      FaultyList list fault → Blames text fault

/-! ## Characters and parentheses -/

theorem parseTrimmed_of_misshapen {text : List Char} {fault : Fault}
    (misshapen : Misshapen text fault) : parseTrimmed text = .error fault := by
  have filledOf {c : Char} (member : c ∈ text) : text.isEmpty = false := by
    simpa using List.ne_nil_of_mem member
  have noneOf (allowed : ∀ c ∈ text, isAllowedChar c = true) :
      (text.find? fun c => !isAllowedChar c) = none := by simpa using allowed
  have opens (isOpened : '(' ∈ text) : ∃ offset, firstOffset? (· == '(') text = some offset := by
    apply Option.ne_none_iff_exists'.mp
    rw [ne_eq, firstOffset?_eq_none_iff]
    exact fun unopened => Bool.false_ne_true (unopened '(' isOpened).symm
  unfold parseTrimmed Reader.trimmed
  cases misshapen with
  | empty isEmpty => simp [isEmpty]
  | @unsupportedCharacter before after c shape allowed unsupported =>
      have found : (text.find? fun c => !isAllowedChar c) = some c := by
        rw [List.find?_eq_some_iff_append]
        exact ⟨by simp [unsupported], before, after, shape, by simpa using allowed⟩
      simp [filledOf (c := c) (by simp [shape]), found]
  | missingOpenParenthesis filled allowed unopened =>
      have nowhere : firstOffset? (· == '(') text = none :=
        firstOffset?_eq_none_iff.mpr fun c member => by
          simpa using ne_of_mem_of_not_mem member unopened
      simp [filled, noneOf allowed, nowhere]
  | missingCloseParenthesis allowed isOpened notClosed =>
      obtain ⟨offset, opening⟩ := opens isOpened
      simp [filledOf isOpened, noneOf allowed, opening, notClosed]
  | nestedParentheses allowed isOpened closed second =>
      obtain ⟨offset, opening⟩ := opens isOpened
      have notOnce : (text.count '(' != 1 || text.count ')' != 1) = true := by
        simp only [Bool.or_eq_true, bne_iff_ne, ne_eq]
        omega
      simp [filledOf isOpened, noneOf allowed, opening, closed, notOnce]

namespace Parenthesized

variable {text head list : List Char}

theorem headInner (pair : Parenthesized text head list) : ∀ c ∈ head, isInnerChar c = true :=
  fun c member => pair.inner c (List.mem_append_left list member)

theorem listInner (pair : Parenthesized text head list) : ∀ c ∈ list, isInnerChar c = true :=
  fun c member => pair.inner c (List.mem_append_right head member)

end Parenthesized

/-- A text with no fault of that kind is parenthesized. -/
theorem misshapen_or_parenthesized (text : List Char) :
    (∃ fault, Misshapen text fault) ∨ ∃ head list, Parenthesized text head list := by
  by_cases isEmpty : text = []
  · exact .inl ⟨_, .empty isEmpty⟩
  cases found : text.find? fun c => !isAllowedChar c with
  | some c =>
      obtain ⟨outside, before, after, shape, allowed⟩ := List.find?_eq_some_iff_append.mp found
      exact .inl ⟨_, .unsupportedCharacter shape (by simpa using allowed) (by simpa using outside)⟩
  | none =>
      have allowed : ∀ c ∈ text, isAllowedChar c = true := by simpa using found
      by_cases isOpened : '(' ∈ text
      case neg => exact .inl ⟨_, .missingOpenParenthesis isEmpty allowed isOpened⟩
      by_cases closed : text.getLast? = some ')'
      case neg => exact .inl ⟨_, .missingCloseParenthesis allowed isOpened closed⟩
      by_cases second : 1 < text.count '(' ∨ 1 < text.count ')'
      · exact .inl ⟨_, .nestedParentheses allowed isOpened closed second⟩
      · have opens := List.count_pos_iff.mpr isOpened
        have closes := List.count_pos_iff.mpr (List.mem_of_getLast? closed)
        obtain ⟨head, list, whole, inner⟩ :=
          exists_parenthesized_of_pair allowed isOpened closed (by omega) (by omega)
        exact .inr ⟨head, list, whole, inner⟩

/-! ## In front of the parentheses -/

theorem isDigit_eq_false_of_isAlpha {c : Char} (letter : c.isAlpha = true) :
    c.isDigit = false := by
  have above : '9'.val < c.val := by
    rcases Bool.or_eq_true_iff.mp letter with upper | lower
    · have bound : 'A'.val ≤ c.val := (of_decide_eq_true upper).1
      exact UInt32.lt_of_lt_of_le (by decide) bound
    · have bound : 'a'.val ≤ c.val := of_decide_eq_true (Bool.and_eq_true_iff.mp lower).1
      exact UInt32.lt_of_lt_of_le (by decide) bound
  exact Bool.and_eq_false_iff.mpr (.inr (decide_eq_false (UInt32.not_le.mpr above)))

/-- A word is an identifier unless it starts with a digit. -/
theorem isIdentifier_eq_not_startsWithDigit {word : List Char} (filled : word ≠ [])
    (inWord : ∀ c ∈ word, isWordChar c = true) :
    isIdentifier word = !startsWithDigit word := by
  obtain ⟨c, rest, rfl⟩ := List.exists_cons_of_ne_nil filled
  have first := inWord c List.mem_cons_self
  have others : rest.all isWordChar = true :=
    List.all_eq_true.mpr fun d member => inWord d (List.mem_cons_of_mem c member)
  have apart : c.isAlpha = true ∨ c = '_' → c.isDigit = false := by
    rintro (letter | rfl)
    · exact isDigit_eq_false_of_isAlpha letter
    · decide
  simp only [isWordChar, Char.isAlphanum, Bool.or_eq_true, beq_iff_eq] at first
  simp only [isIdentifier, others, startsWithDigit, List.head?_cons, Option.any_some]
  grind

namespace EndsInWord

variable {head front word : List Char}

theorem trimEnd_eq (ends : EndsInWord head front word) : trimEnd head = front ++ word := by
  obtain ⟨after, rfl, blank⟩ := ends.whole
  refine trimEnd_append ?_ blank
  obtain ⟨before, last, rfl⟩ := (List.eq_nil_or_concat word).resolve_left ends.filled
  have filled := isBlank_eq_false_of_isWordChar (ends.inWord last (by simp))
  simpa using filled

theorem inner (ends : EndsInWord head front word) (inner : ∀ c ∈ head, isInnerChar c = true) :
    ∀ c ∈ front, isInnerChar c = true := by
  obtain ⟨after, rfl, -⟩ := ends.whole
  exact fun c member => inner c (by simp [member])

theorem splitHead_eq (ends : EndsInWord head front word)
    (inner : ∀ c ∈ head, isInnerChar c = true) :
    splitHead (trimEnd head) =
      if startsWithDigit word then .error (.invalidName (String.ofList word))
      else if trim front = [] then .error .missingReturnType
      else if Token.isType (Token.ofText front) then
        .ok (String.ofList (collapseBlanks front), String.ofList word)
      else .error (.invalidReturnType (String.ofList (trim front))) := by
  rw [ends.trimEnd_eq, splitHead_append (ends.inner inner) ends.inWord ends.stop,
    isIdentifier_eq_not_startsWithDigit ends.filled ends.inWord, Token.ofText_trim,
    collapseBlanks_trim]
  cases digit : startsWithDigit word <;> cases isType : Token.isType (Token.ofText front) <;>
    simp [ends.filled]

end EndsInWord

theorem exists_endsInWord_or (head : List Char) :
    (∀ c ∈ (trimEnd head).getLast?, isWordChar c = false) ∨
      ∃ front word, EndsInWord head front word := by
  obtain ⟨after, blank, shape⟩ := exists_trimEnd_append head
  obtain ⟨front, word, pieces, inWord, stop⟩ := exists_append_word (trimEnd head)
  rw [pieces] at shape ⊢
  by_cases isEmpty : word = []
  · subst isEmpty
    exact .inl (by simpa using stop)
  · exact .inr ⟨front, word, ⟨after, shape, blank⟩, isEmpty, inWord, stop⟩

theorem splitHead_of_nameless {head : List Char} (inner : ∀ c ∈ head, isInnerChar c = true)
    (nameless : ∀ c ∈ (trimEnd head).getLast?, isWordChar c = false) :
    splitHead (trimEnd head) = .error .missingName := by
  have trimmedInner : ∀ c ∈ trimEnd head, isInnerChar c = true :=
    fun c member => inner c (mem_of_mem_trimEnd member)
  simpa using splitHead_append trimmedInner (List.forall_mem_nil _) nameless

/-- Reading the text in front of the parentheses reports its first fault. -/
theorem splitHead_eq_error_iff {head : List Char} (inner : ∀ c ∈ head, isInnerChar c = true)
    {fault : Fault} : splitHead (trimEnd head) = .error fault ↔ FaultyHead head fault := by
  have isTypeText {front word : List Char} (ends : EndsInWord head front word) :
      Token.isType (Token.ofText front) = true ↔ IsTypeText front :=
    isType_ofText_iff (ends.inner inner)
  constructor
  · intro failed
    rcases exists_endsInWord_or head with nameless | ⟨front, word, ends⟩
    · rw [splitHead_of_nameless inner nameless] at failed
      cases failed
      exact .missingName nameless
    · rw [ends.splitHead_eq inner] at failed
      split at failed
      next digit =>
        cases failed
        exact .invalidName ends digit
      next noDigit =>
        rw [Bool.not_eq_true] at noDigit
        split at failed
        next isEmpty =>
          cases failed
          exact .missingReturnType ends noDigit (trim_eq_nil_iff.mp isEmpty)
        next filled =>
          split at failed
          next => cases failed
          next notType =>
            cases failed
            rw [trim_eq_nil_iff] at filled
            exact .invalidReturnType ends noDigit (by simpa using filled)
              (mt (isTypeText ends).mpr notType)
  · rintro (nameless | ⟨ends, digit⟩ | ⟨ends, noDigit, blank⟩ | ⟨ends, noDigit, filled, notType⟩)
    · exact splitHead_of_nameless inner nameless
    · rw [ends.splitHead_eq inner, if_pos digit]
    · rw [ends.splitHead_eq inner, if_neg (by simp [noDigit]), if_pos (trim_eq_nil_iff.mpr blank)]
    · have notBlank := mt trim_eq_nil_iff.mp (by simpa using filled)
      rw [ends.splitHead_eq inner, if_neg (by simp [noDigit]), if_neg notBlank,
        if_neg (mt (isTypeText ends).mp notType)]

/-! ## Between the parentheses -/

theorem isParameterText_iff {segment : List Char} (inner : ∀ c ∈ segment, isInnerChar c = true)
    (position : Nat) :
    IsParameterText segment ↔
      ∃ parameter, parseParameter position (trim segment) = .ok parameter := by
  simp only [parseParameter_eq_ok_iff inner]
  constructor
  · rintro ⟨lexemes, after, lexes, isParameter⟩
    exact ⟨_, lexemes, after, lexes, isParameter, rfl⟩
  · rintro ⟨-, lexemes, after, lexes, isParameter, -⟩
    exact ⟨lexemes, after, lexes, isParameter⟩

theorem parseParameter_eq_error_iff {segment : List Char}
    (inner : ∀ c ∈ segment, isInnerChar c = true) {position : Nat} {fault : Fault} :
    parseParameter position (trim segment) = .error fault ↔
      ¬ IsParameterText segment ∧
        fault = if trim segment = [] then .emptyParameter position
          else .invalidParameter (String.ofList (trim segment)) := by
  rw [isParameterText_iff inner position]
  unfold parseParameter Reader.parameter
  simp only [Reader.direct_tokens, ok_bind, pure_eq_ok, throw_eq_error]
  by_cases isEmpty : trim segment = []
  · simp [isEmpty, eq_comm]
  · rw [if_neg isEmpty, if_neg (by simpa using isEmpty)]
    split <;> simp [eq_comm]

/-- Segments are read from the left up to the first that is no parameter. -/
theorem parseParametersFrom_eq_error_iff {segments : List (List Char)}
    (inner : ∀ segment ∈ segments, ∀ c ∈ segment, isInnerChar c = true) {position : Nat}
    {fault : Fault} :
    parseParametersFrom position segments = .error fault ↔
      ∃ before segment after, segments = before ++ segment :: after ∧
        (∀ other ∈ before, IsParameterText other) ∧
          parseParameter (position + before.length) (trim segment) = .error fault := by
  induction segments generalizing position with
  | nil => simp
  | cons first rest ih =>
      obtain ⟨firstInner, restInner⟩ := List.forall_mem_cons.mp inner
      have readable := isParameterText_iff firstInner position
      simp only [parseParametersFrom_cons, bind_pure_comp, bind_eq_error_iff, map_eq_error_iff]
      constructor
      · rintro (here | ⟨parameter, here, further⟩)
        · exact ⟨[], first, rest, rfl, List.forall_mem_nil _, here⟩
        · obtain ⟨before, segment, after, rfl, allRead, blamed⟩ := (ih restInner).mp further
          rw [Nat.add_right_comm] at blamed
          exact ⟨first :: before, segment, after, rfl,
            List.forall_mem_cons.mpr ⟨readable.mpr ⟨parameter, here⟩, allRead⟩, blamed⟩
      · rintro ⟨before, segment, after, shape, allRead, blamed⟩
        cases before with
        | nil =>
            obtain ⟨rfl, rfl⟩ := List.cons.inj shape
            exact .inl blamed
        | cons other before =>
            obtain ⟨rfl, restShape⟩ := List.cons.inj shape
            obtain ⟨isParameter, restRead⟩ := List.forall_mem_cons.mp allRead
            obtain ⟨parameter, here⟩ := readable.mp isParameter
            rw [List.length_cons, ← Nat.add_assoc, Nat.add_right_comm] at blamed
            have further := (ih restInner).mpr ⟨before, segment, after, restShape, restRead, blamed⟩
            exact .inr ⟨parameter, here, further⟩

/-- Reading the text between the parentheses reports its first fault. -/
theorem parseParameters_eq_error_iff {list : List Char} (inner : ∀ c ∈ list, isInnerChar c = true)
    {fault : Fault} : parseParameters list = .error fault ↔ FaultyList list fault := by
  have segmentsInner : ∀ segment ∈ splitWhere (· == ',') list,
      ∀ c ∈ segment, isInnerChar c = true :=
    fun segment isSegment c member => inner c (mem_of_mem_splitWhere isSegment member).1
  constructor
  · intro failed
    obtain ⟨filled, notVoid⟩ : trim list ≠ [] ∧ trim list ≠ "void".toList := by
      rw [← not_or]
      intro nothing
      rw [parseParameters_of_nothing nothing] at failed
      cases failed
    rw [parseParameters_eq filled notVoid, parseParametersFrom_eq_error_iff segmentsInner] at failed
    obtain ⟨before, segment, after, shape, allRead, blamed⟩ := failed
    have segmentInner := segmentsInner segment (by simp [shape])
    obtain ⟨offends, rfl⟩ := (parseParameter_eq_error_iff segmentInner).mp blamed
    have first : FirstOffending list (1 + before.length) segment :=
      ⟨filled, notVoid, ⟨before, after, shape, Nat.add_comm .., allRead⟩, offends⟩
    split
    next isEmpty => exact .emptyParameter first isEmpty
    next notEmpty => exact .invalidParameter first notEmpty
  · intro faulty
    obtain ⟨position, segment, offending, blamed⟩ : ∃ position segment,
        FirstOffending list position segment ∧
          fault = if trim segment = [] then .emptyParameter position
            else .invalidParameter (String.ofList (trim segment)) := by
      rcases faulty with ⟨offending, isEmpty⟩ | ⟨offending, notEmpty⟩
      · exact ⟨_, _, offending, (if_pos isEmpty).symm⟩
      · exact ⟨_, _, offending, (if_neg notEmpty).symm⟩
    obtain ⟨before, after, shape, rfl, allRead⟩ := offending.first
    have segmentInner := segmentsInner segment (by simp [shape])
    rw [parseParameters_eq offending.filled offending.notVoid,
      parseParametersFrom_eq_error_iff segmentsInner]
    rw [Nat.add_comm] at blamed
    exact ⟨before, segment, after, shape, allRead,
      (parseParameter_eq_error_iff segmentInner).mpr ⟨offending.offends, blamed⟩⟩

/-! ## Whole texts -/

/-- Faults in front of the parentheses outrank those between them. -/
theorem Parenthesized.parseTrimmed_eq_error_iff {text head list : List Char}
    (pair : Parenthesized text head list) {fault : Fault} :
    parseTrimmed text = .error fault ↔
      FaultyHead head fault ∨ (∀ other, ¬ FaultyHead head other) ∧ FaultyList list fault := by
  simp only [← splitHead_eq_error_iff pair.headInner,
    ← parseParameters_eq_error_iff pair.listInner]
  rw [pair.whole, parseTrimmed_parenthesized pair.inner]
  cases splitHead (trimEnd head) <;> simp

theorem parseTrimmed_eq_error_iff {text : List Char} {fault : Fault} :
    parseTrimmed text = .error fault ↔ Blames text fault := by
  constructor
  · intro failed
    rcases misshapen_or_parenthesized text with ⟨other, misshapen⟩ | ⟨head, list, pair⟩
    · rw [parseTrimmed_of_misshapen misshapen] at failed
      cases failed
      exact .shape misshapen
    · rcases pair.parseTrimmed_eq_error_iff.mp failed with faulty | ⟨faultless, faulty⟩
      · exact .head pair faulty
      · exact .list pair faultless faulty
  · intro blamed
    cases blamed with
    | shape misshapen => exact parseTrimmed_of_misshapen misshapen
    | head pair faulty => exact pair.parseTrimmed_eq_error_iff.mpr (.inl faulty)
    | list pair faultless faulty =>
        exact pair.parseTrimmed_eq_error_iff.mpr (.inr ⟨faultless, faulty⟩)

/-- Reading a line fails with the fault that the line without the blanks at its ends is to be
blamed for, and with no other. -/
theorem parse_eq_error_iff_blames (line : String) (fault : Fault) :
    parse line = .error fault ↔ Blames (trim line.toList) fault :=
  parseTrimmed_eq_error_iff

example : parse " f(int, , int *) " = .error .missingReturnType := rfl

end Prototype
end BindingGen
