import BindingGen.Proofs.Prototype.Blame
import BindingGen.Proofs.Text.Spacing

/-!
# Prototypes with other spacing

Reading a line looks at its characters without spaces and tabs, as long as it has to find its shape,
and at words from then on.  So lines that differ in their spacing only give the same prototype, or
faults of one kind: the text that a fault quotes may be spaced otherwise.
-/

namespace BindingGen
namespace Prototype

open Text

/-- A fault without the text that it quotes from the line with its spacing. -/
def Fault.unquoted : Fault → Fault
  | .invalidReturnType _ => .invalidReturnType ""
  | .invalidParameter _ => .invalidParameter ""
  | fault => fault

section Results

variable {ε δ α β : Type} {f : ε → δ}

/-- Two computations agree up to what becomes of their errors if their parts do. -/
theorem mapError_bind_congr {first second : Except ε α} {next other : α → Except ε β}
    (same : first.mapError f = second.mapError f)
    (further : ∀ value, (next value).mapError f = (other value).mapError f) :
    (first >>= next).mapError f = (second >>= other).mapError f := by
  cases first with
  | error fault =>
      cases second with
      | error otherFault => exact congrArg Except.error (Except.error.inj same)
      | ok value => cases same
  | ok value =>
      cases second with
      | error fault => cases same
      | ok otherValue =>
          obtain rfl := Except.ok.inj same
          exact further value

end Results

/-! ## Characters and parentheses -/

theorem isAllowedChar_of_isSpacing {c : Char} (spacing : isSpacing c = true) :
    isAllowedChar c = true := by
  simp only [isSpacing, Bool.or_eq_true, beq_iff_eq] at spacing
  rcases spacing with rfl | rfl <;> rfl

@[simp]
theorem find?_ink (text : List Char) :
    (ink text).find? (fun c => !isAllowedChar c) = text.find? fun c => !isAllowedChar c := by
  rw [ink, List.find?_filter]
  congr 1
  funext c
  cases spacing : isSpacing c with
  | true => simp [isAllowedChar_of_isSpacing spacing]
  | false => simp

theorem count_ink {c : Char} (filled : isSpacing c = false) (text : List Char) :
    (ink text).count c = text.count c :=
  List.count_filter (by simp [filled])

/-- What the faults of characters and parentheses depend on. -/
structure SameShape (text other : List Char) : Prop where
  first : text.head? = other.head?
  last : text.getLast? = other.getLast?
  unsupported :
    text.find? (fun c => !isAllowedChar c) = other.find? fun c => !isAllowedChar c
  count : ∀ c, isSpacing c = false → text.count c = other.count c

/-- Spaces and tabs inside a line have no part in its shape. -/
theorem sameShape_of_ink_eq {text other : List Char} (trimmed : Trimmed text)
    (alsoTrimmed : Trimmed other) (same : ink text = ink other) : SameShape text other where
  first := by rw [← (ink_of_trimmed trimmed).1, same, (ink_of_trimmed alsoTrimmed).1]
  last := by rw [← (ink_of_trimmed trimmed).2, same, (ink_of_trimmed alsoTrimmed).2]
  unsupported := by rw [← find?_ink, same, find?_ink]
  count c filled := by rw [← count_ink filled, same, count_ink filled]

theorem Misshapen.of_sameShape {text other : List Char} {fault : Fault}
    (misshapen : Misshapen text fault) (same : SameShape text other) : Misshapen other fault := by
  have isEmpty_iff : text = [] ↔ other = [] := by
    rw [← List.head?_eq_none_iff, same.first, List.head?_eq_none_iff]
  have allowedAlike (allowed : ∀ c ∈ text, isAllowedChar c = true) :
      ∀ c ∈ other, isAllowedChar c = true := by
    have none : (text.find? fun c => !isAllowedChar c) = none := by simpa using allowed
    rw [same.unsupported] at none
    simpa using none
  have openings := same.count '(' (by decide)
  have closings := same.count ')' (by decide)
  have opening : '(' ∈ text ↔ '(' ∈ other := by
    rw [← List.count_pos_iff, openings, List.count_pos_iff]
  cases misshapen with
  | empty isEmpty => exact .empty (isEmpty_iff.mp isEmpty)
  | @unsupportedCharacter before after c shape allowed unsupported =>
      have isFirst : (text.find? fun c => !isAllowedChar c) = some c := by
        rw [List.find?_eq_some_iff_append]
        exact ⟨by simp [unsupported], before, after, shape, by simpa using allowed⟩
      rw [same.unsupported, List.find?_eq_some_iff_append] at isFirst
      obtain ⟨-, otherBefore, otherAfter, otherShape, alsoAllowed⟩ := isFirst
      exact .unsupportedCharacter otherShape (by simpa using alsoAllowed) unsupported
  | missingOpenParenthesis filled allowed unopened =>
      exact .missingOpenParenthesis (mt isEmpty_iff.mpr filled) (allowedAlike allowed)
        (mt opening.mpr unopened)
  | missingCloseParenthesis allowed isOpened notClosed =>
      exact .missingCloseParenthesis (allowedAlike allowed) (opening.mp isOpened)
        (same.last ▸ notClosed)
  | nestedParentheses allowed isOpened closed second =>
      exact .nestedParentheses (allowedAlike allowed) (opening.mp isOpened) (same.last ▸ closed)
        (openings ▸ closings ▸ second)

theorem mem_of_singleton_mem_looseWords {cs : List Char} {c : Char}
    (isWord : [c] ∈ looseWords cs) : c ∈ cs := by
  have inWords : c ∈ (looseWords cs).flatten :=
    List.mem_flatten.mpr ⟨[c], isWord, List.mem_singleton_self c⟩
  rw [flatten_looseWords] at inWords
  exact (List.mem_filter.mp inWords).1

namespace Parenthesized

variable {text head list : List Char}

theorem not_misshapen (pair : Parenthesized text head list) {fault : Fault} :
    ¬ Misshapen text fault := by
  have allowed : ∀ c ∈ text, isAllowedChar c = true := by
    simp only [pair.whole, isAllowedChar_eq, List.mem_append, List.mem_cons, List.not_mem_nil,
      or_false]
    rintro c (inHead | rfl | inList | rfl)
    · simp [pair.headInner c inHead]
    · simp
    · simp [pair.listInner c inList]
    · simp
  have noParenthesis (c : Char) (parenthesis : c = '(' ∨ c = ')') :
      head.count c = 0 ∧ list.count c = 0 := by
    have notInner : ¬ isInnerChar c = true := fun inner => by
      obtain ⟨notOpening, notClosing⟩ := isInnerChar_ne inner
      exact parenthesis.elim notOpening notClosing
    exact ⟨List.count_eq_zero.mpr fun member => notInner (pair.headInner c member),
      List.count_eq_zero.mpr fun member => notInner (pair.listInner c member)⟩
  have openings : text.count '(' = 1 := by simp [pair.whole, noParenthesis]
  have closings : text.count ')' = 1 := by simp [pair.whole, noParenthesis]
  intro misshapen
  cases misshapen with
  | empty isEmpty => simp [isEmpty] at openings
  | unsupportedCharacter shape _ unsupported =>
      cases (allowed _ (by simp [shape])).symm.trans unsupported
  | missingOpenParenthesis _ _ unopened =>
      exact unopened (List.count_pos_iff.mp (openings ▸ Nat.one_pos))
  | missingCloseParenthesis _ _ notClosed =>
      refine notClosed ?_
      rw [pair.whole, ← List.cons_append, ← List.append_assoc, List.getLast?_concat]
  | nestedParentheses _ _ _ second =>
      rw [openings, closings] at second
      exact second.elim (Nat.lt_irrefl 1) (Nat.lt_irrefl 1)

theorem looseWords_eq (pair : Parenthesized text head list) :
    looseWords text = looseWords head ++ ['('] :: (looseWords list ++ [[')']]) := by
  rw [pair.whole, looseWords_append_delimiter rfl, looseWords_append_delimiter rfl]
  rfl

/-- The words of a text are cut where its parentheses are. -/
theorem looseWords_inj (pair : Parenthesized text head list)
    {other otherHead otherList : List Char} (otherPair : Parenthesized other otherHead otherList)
    (same : looseWords text = looseWords other) :
    looseWords head = looseWords otherHead ∧ looseWords list = looseWords otherList := by
  have notInHead : ['('] ∉ looseWords head := fun isWord =>
    (isInnerChar_ne (pair.headInner '(' (mem_of_singleton_mem_looseWords isWord))).1 rfl
  have notInList : ['('] ∉ looseWords list ++ [[')']] := by
    intro isWord
    rcases List.mem_append.mp isWord with inList | closing
    · exact (isInnerChar_ne (pair.listInner '(' (mem_of_singleton_mem_looseWords inList))).1 rfl
    · simp at closing
  rw [pair.looseWords_eq, otherPair.looseWords_eq,
    List.append_cons_inj_of_notMem notInHead notInList] at same
  exact ⟨same.1, List.append_cancel_right same.2.2⟩

end Parenthesized

/-! ## In front of the parentheses -/

section Types

variable {cs ds : List Char} (same : words cs = words ds)
include same

theorem ofText_of_words_eq : Token.ofText cs = Token.ofText ds := by
  rw [Token.ofText, same]
  rfl

theorem collapseBlanks_of_words_eq : collapseBlanks cs = collapseBlanks ds := by
  rw [collapseBlanks, same]
  rfl

end Types

theorem isDelimiter_eq_false_of_inner {cs : List Char} (inner : ∀ c ∈ cs, isInnerChar c = true)
    (noComma : ',' ∉ cs) : ∀ c ∈ cs, isDelimiter c = false := by
  intro c member
  obtain ⟨notOpening, notClosing⟩ := isInnerChar_ne (inner c member)
  have notComma := ne_of_mem_of_not_mem member noComma
  simp [isDelimiter, notOpening, notClosing, notComma]

theorem comma_not_mem_of_isType {cs : List Char} (inner : ∀ c ∈ cs, isInnerChar c = true)
    (isType : Token.isType (Token.ofText cs) = true) : ',' ∉ cs := by
  obtain ⟨lexemes, after, lexes, isType⟩ := (isType_ofText_iff inner).mp isType
  exact lexes.comma_not_mem isType.inType

/-- Texts with the same words are the same types, unless both hold a comma and are none. -/
theorem words_eq_or_not_isType {cs ds : List Char} (inner : ∀ c ∈ cs, isInnerChar c = true)
    (alsoInner : ∀ c ∈ ds, isInnerChar c = true) (same : looseWords cs = looseWords ds) :
    words cs = words ds ∨
      Token.isType (Token.ofText cs) = false ∧ Token.isType (Token.ofText ds) = false := by
  have bothHaveCommas : ',' ∈ cs ↔ ',' ∈ ds := mem_iff_of_looseWords_eq same (by decide)
  by_cases hasComma : ',' ∈ cs
  · have notType := mt (comma_not_mem_of_isType inner) (not_not_intro hasComma)
    have alsoNotType := mt (comma_not_mem_of_isType alsoInner)
      (not_not_intro (bothHaveCommas.mp hasComma))
    exact .inr ⟨Bool.eq_false_iff.mpr notType, Bool.eq_false_iff.mpr alsoNotType⟩
  · have plain := isDelimiter_eq_false_of_inner inner hasComma
    have alsoPlain := isDelimiter_eq_false_of_inner alsoInner (mt bothHaveCommas.mpr hasComma)
    rw [looseWords_of_plain plain, looseWords_of_plain alsoPlain] at same
    exact .inl same

theorem getLast?_trimEnd (cs : List Char) :
    (trimEnd cs).getLast? = (looseWords cs).flatten.getLast? := by
  obtain ⟨after, blank, shape⟩ := exists_trimEnd_append cs
  have stop := trimEnd_stop cs
  have nothing : after.filter (fun c => !isBlank c) = [] := by simpa using blank
  rw [flatten_looseWords]
  conv => rhs; rw [shape]
  rw [List.filter_append, nothing, List.append_nil]
  rcases List.eq_nil_or_concat (trimEnd cs) with isEmpty | ⟨front, last, isLast⟩
  · rw [isEmpty]
    rfl
  · rw [isLast, List.concat_eq_append] at stop ⊢
    have filled : isBlank last = false := stop last (by simp)
    simp [filled]

namespace EndsInWord

variable {head front word : List Char}

theorem exists_getLast? (ends : EndsInWord head front word) :
    ∃ c ∈ (trimEnd head).getLast?, isWordChar c = true := by
  rw [ends.trimEnd_eq]
  rcases List.eq_nil_or_concat word with isEmpty | ⟨before, last, shape⟩
  · exact absurd isEmpty ends.filled
  · rw [List.concat_eq_append] at shape
    exact ⟨last, by simp [shape], ends.inWord last (by simp [shape])⟩

theorem looseWords_eq (ends : EndsInWord head front word) :
    looseWords head = looseWords (front ++ word) := by
  obtain ⟨after, whole, blank⟩ := ends.whole
  rw [whole, looseWords_append_blanks blank]

/-- The words of a text tell the word at its end and the words in front of it. -/
theorem looseWords_inj (ends : EndsInWord head front word) {other otherFront otherWord : List Char}
    (alsoEnds : EndsInWord other otherFront otherWord) (same : looseWords head = looseWords other) :
    looseWords front = looseWords otherFront ∧ word = otherWord := by
  obtain ⟨others, stem, stop, whole, isFront⟩ :=
    exists_looseWords_append_word ends.filled ends.inWord ends.stop
  obtain ⟨otherOthers, otherStem, otherStop, otherWhole, isOtherFront⟩ :=
    exists_looseWords_append_word alsoEnds.filled alsoEnds.inWord alsoEnds.stop
  rw [ends.looseWords_eq, alsoEnds.looseWords_eq, whole, otherWhole] at same
  obtain ⟨rfl, lastWord⟩ := List.append_inj' same rfl
  obtain ⟨rfl, rfl⟩ := append_word_inj ends.inWord alsoEnds.inWord stop otherStop
    (List.singleton_inj.mp lastWord)
  exact ⟨isFront.trans isOtherFront.symm, rfl⟩

end EndsInWord

theorem splitHead_of_looseWords_eq {head other : List Char}
    (inner : ∀ c ∈ head, isInnerChar c = true) (otherInner : ∀ c ∈ other, isInnerChar c = true)
    (same : looseWords head = looseWords other) :
    (splitHead (trimEnd head)).mapError Fault.unquoted =
      (splitHead (trimEnd other)).mapError Fault.unquoted := by
  have sameLast : (trimEnd head).getLast? = (trimEnd other).getLast? := by
    rw [getLast?_trimEnd, getLast?_trimEnd, same]
  rcases exists_endsInWord_or head with nameless | ⟨front, word, ends⟩
  · rw [splitHead_of_nameless inner nameless,
      splitHead_of_nameless otherInner (sameLast ▸ nameless)]
  · obtain ⟨otherFront, otherWord, alsoEnds⟩ : ∃ front word, EndsInWord other front word := by
      refine (exists_endsInWord_or other).resolve_left fun nameless => ?_
      obtain ⟨c, isLast, inWord⟩ := ends.exists_getLast?
      cases (nameless c (sameLast ▸ isLast)).symm.trans inWord
    obtain ⟨sameFront, rfl⟩ := ends.looseWords_inj alsoEnds same
    have bothEmpty : trim front = [] ↔ trim otherFront = [] := by
      rw [← looseWords_eq_nil_iff, sameFront, looseWords_eq_nil_iff]
    rw [ends.splitHead_eq inner, alsoEnds.splitHead_eq otherInner]
    simp only [bothEmpty]
    rcases words_eq_or_not_isType (ends.inner inner) (alsoEnds.inner otherInner) sameFront with
      sameWords | ⟨notType, alsoNotType⟩
    · rw [ofText_of_words_eq sameWords, collapseBlanks_of_words_eq sameWords]
      split
      next => rfl
      next =>
        split
        next => rfl
        next => split <;> rfl
    · rw [notType, alsoNotType]
      split
      next => rfl
      next => split <;> rfl

/-! ## Between the parentheses -/

theorem trim_eq_void_iff {cs : List Char} :
    trim cs = ['v', 'o', 'i', 'd'] ↔ words cs = [['v', 'o', 'i', 'd']] := by
  rw [words_eq_singleton_iff]
  exact ⟨fun isVoid => ⟨isVoid, by decide⟩, And.left⟩

theorem parseParameter_of_words_eq {cs ds : List Char} (same : words cs = words ds)
    (position : Nat) :
    (parseParameter position (trim cs)).mapError Fault.unquoted =
      (parseParameter position (trim ds)).mapError Fault.unquoted := by
  have bothEmpty : (trim cs).isEmpty = (trim ds).isEmpty := by
    rw [Bool.eq_iff_iff, List.isEmpty_iff, List.isEmpty_iff, ← words_eq_nil_iff, same,
      words_eq_nil_iff]
  have bothVoid : (trim cs == ['v', 'o', 'i', 'd']) = (trim ds == ['v', 'o', 'i', 'd']) := by
    rw [Bool.eq_iff_iff, beq_iff_eq, beq_iff_eq, trim_eq_void_iff, same, trim_eq_void_iff]
  unfold parseParameter Reader.parameter
  simp only [Reader.direct_tokens, ok_bind, Token.ofText_trim, collapseBlanks_trim,
    ofText_of_words_eq same, collapseBlanks_of_words_eq same, bothEmpty, bothVoid]
  split
  next => rfl
  next => split <;> rfl

theorem parseParametersFrom_of_words_eq {pieces others : List (List Char)}
    (same : pieces.map words = others.map words) (position : Nat) :
    (parseParametersFrom position pieces).mapError Fault.unquoted =
      (parseParametersFrom position others).mapError Fault.unquoted := by
  induction pieces generalizing others position with
  | nil =>
      obtain rfl : others = [] := by simpa using same.symm
      rfl
  | cons piece pieces ih =>
      cases others with
      | nil => cases same
      | cons other others =>
          obtain ⟨here, further⟩ := List.cons.inj same
          rw [parseParametersFrom_cons, parseParametersFrom_cons]
          refine mapError_bind_congr (parseParameter_of_words_eq here position) fun parameter => ?_
          exact mapError_bind_congr (ih further (position + 1)) fun parameters => rfl

/-- The words of some pieces and of the commas between them. -/
theorem looseWords_intercalate {pieces : List (List Char)}
    (plain : ∀ piece ∈ pieces, ∀ c ∈ piece, isDelimiter c = false) :
    looseWords ([','].intercalate pieces) = [[',']].intercalate (pieces.map words) := by
  induction pieces with
  | nil => rfl
  | cons piece rest ih =>
      obtain ⟨here, further⟩ := List.forall_mem_cons.mp plain
      cases rest with
      | nil => simpa using looseWords_of_plain here
      | cons next rest =>
          rw [List.intercalate_cons_cons, List.append_assoc, List.singleton_append,
            looseWords_append_delimiter rfl, looseWords_of_plain here, ih further, List.map_cons,
            List.map_cons, List.map_cons, List.intercalate_cons_cons, List.append_assoc]
          rfl

theorem map_words_splitWhere {list : List Char} (inner : ∀ c ∈ list, isInnerChar c = true) :
    (splitWhere (· == ',') list).map words = (looseWords list).splitOn [','] := by
  have noComma (piece : List Char) (isPiece : piece ∈ splitWhere (· == ',') list) :
      ',' ∉ piece := fun member => by simpa using (mem_of_mem_splitWhere isPiece member).2
  have plain (piece : List Char) (isPiece : piece ∈ splitWhere (· == ',') list) :
      ∀ c ∈ piece, isDelimiter c = false :=
    isDelimiter_eq_false_of_inner
      (fun c member => inner c (mem_of_mem_splitWhere isPiece member).1) (noComma piece isPiece)
  have whole := looseWords_intercalate plain
  rw [intercalate_splitWhere] at whole
  rw [whole, List.splitOn_intercalate]
  · intro pieceWords isMapped isWord
    obtain ⟨piece, isPiece, rfl⟩ := List.mem_map.mp isMapped
    exact noComma piece isPiece (mem_of_mem_words isWord (List.mem_singleton_self ','))
  · simpa using splitWhere_ne_nil _ list

theorem trim_eq_void_iff_looseWords {list : List Char}
    (inner : ∀ c ∈ list, isInnerChar c = true) :
    trim list = ['v', 'o', 'i', 'd'] ↔ looseWords list = [['v', 'o', 'i', 'd']] := by
  by_cases hasComma : ',' ∈ list
  · have inWords : ',' ∈ (looseWords list).flatten := by
      simp [hasComma, isBlank]
    refine iff_of_false (fun isVoid => ?_) fun isVoid => ?_
    · rw [← looseWords_trim, isVoid] at inWords
      exact absurd inWords (by decide)
    · rw [isVoid] at inWords
      exact absurd inWords (by decide)
  · rw [trim_eq_void_iff, looseWords_of_plain (isDelimiter_eq_false_of_inner inner hasComma)]

theorem parseParameters_of_looseWords_eq {list other : List Char}
    (inner : ∀ c ∈ list, isInnerChar c = true) (otherInner : ∀ c ∈ other, isInnerChar c = true)
    (same : looseWords list = looseWords other) :
    (parseParameters list).mapError Fault.unquoted =
      (parseParameters other).mapError Fault.unquoted := by
  have bothEmpty : trim list = [] ↔ trim other = [] := by
    rw [← looseWords_eq_nil_iff, same, looseWords_eq_nil_iff]
  have bothVoid : trim list = ['v', 'o', 'i', 'd'] ↔ trim other = ['v', 'o', 'i', 'd'] := by
    rw [trim_eq_void_iff_looseWords inner, same, trim_eq_void_iff_looseWords otherInner]
  by_cases isEmpty : trim list = []
  · rw [parseParameters_of_nothing (.inl isEmpty),
      parseParameters_of_nothing (.inl (bothEmpty.mp isEmpty))]
  by_cases isVoid : trim list = ['v', 'o', 'i', 'd']
  · rw [parseParameters_of_nothing (.inr isVoid),
      parseParameters_of_nothing (.inr (bothVoid.mp isVoid))]
  rw [parseParameters_eq isEmpty isVoid,
    parseParameters_eq (mt bothEmpty.mpr isEmpty) (mt bothVoid.mpr isVoid)]
  refine parseParametersFrom_of_words_eq ?_ 1
  rw [map_words_splitWhere inner, same, map_words_splitWhere otherInner]

/-! ## Whole lines -/

/-- Lines that differ in their spacing only are read alike. -/
theorem parseTrimmed_of_alike {text other : List Char} (trimmed : Trimmed text)
    (alsoTrimmed : Trimmed other) (alike : SpacedAlike text other) :
    (parseTrimmed text).mapError Fault.unquoted =
      (parseTrimmed other).mapError Fault.unquoted := by
  rcases misshapen_or_parenthesized text with ⟨fault, misshapen⟩ | ⟨head, list, pair⟩
  · rw [parseTrimmed_of_misshapen misshapen,
      parseTrimmed_of_misshapen
        (misshapen.of_sameShape (sameShape_of_ink_eq trimmed alsoTrimmed alike.ink))]
  · obtain ⟨otherHead, otherList, otherPair⟩ :
        ∃ otherHead otherList, Parenthesized other otherHead otherList := by
      refine (misshapen_or_parenthesized other).resolve_left ?_
      rintro ⟨fault, misshapen⟩
      have sameShape := sameShape_of_ink_eq alsoTrimmed trimmed alike.ink.symm
      exact pair.not_misshapen (misshapen.of_sameShape sameShape)
    obtain ⟨sameHead, sameList⟩ := pair.looseWords_inj otherPair alike.words
    rw [pair.whole, otherPair.whole, parseTrimmed_parenthesized pair.inner,
      parseTrimmed_parenthesized otherPair.inner]
    refine mapError_bind_congr
      (splitHead_of_looseWords_eq pair.headInner otherPair.headInner sameHead) fun pieces => ?_
    exact mapError_bind_congr
      (parseParameters_of_looseWords_eq pair.listInner otherPair.listInner sameList)
      fun parameters => rfl

end Prototype
end BindingGen
