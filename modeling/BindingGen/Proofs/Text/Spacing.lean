import BindingGen.Proofs.Text.Words

/-!
# Spacing

Spaces and tabs separate words, and where a parenthesis or a comma stands the words are separate
anyway.  So a text is left alike when a run of spaces and tabs is made longer or shorter, and when
one is put at an end of the text or beside such a character: the words are the same, and so are the
characters that are neither spaces nor tabs.
-/

namespace BindingGen
namespace Text

/-- The blanks that lay out a line. -/
def isSpacing (c : Char) : Bool :=
  c == ' ' || c == '\t'

/-- The characters that separate words without blanks. -/
def isDelimiter (c : Char) : Bool :=
  c == '(' || c == ')' || c == ','

@[grind →]
theorem isBlank_of_isSpacing {c : Char} (spacing : isSpacing c = true) : isBlank c = true := by
  simp only [isSpacing, Bool.or_eq_true, beq_iff_eq] at spacing
  rcases spacing with rfl | rfl <;> rfl

@[grind →]
theorem isBlank_eq_false_of_isDelimiter {c : Char} (delimiter : isDelimiter c = true) :
    isBlank c = false := by
  simp only [isDelimiter, Bool.or_eq_true, beq_iff_eq] at delimiter
  rcases delimiter with (rfl | rfl) | rfl <;> decide

@[grind →]
theorem isDelimiter_eq_false_of_isBlank {c : Char} (blank : isBlank c = true) :
    isDelimiter c = false := by
  cases delimiter : isDelimiter c with
  | true => cases blank.symm.trans (isBlank_eq_false_of_isDelimiter delimiter)
  | false => rfl

@[grind →]
theorem isDelimiter_eq_false_of_isWordChar {c : Char} (word : isWordChar c = true) :
    isDelimiter c = false := by
  have codes := toNat_of_isWordChar word
  simp only [isDelimiter, Bool.or_eq_false_iff, beq_eq_false_iff_ne]
  refine ⟨⟨?_, ?_⟩, ?_⟩ <;> rintro rfl <;> simp at codes

/-! ## Words between delimiters -/

/-- A text with a space on either side of every delimiter. -/
def loosen (cs : List Char) : List Char :=
  cs.flatMap fun c => if isDelimiter c then [' ', c, ' '] else [c]

/-- The words of a text, with each delimiter a word of its own. -/
def looseWords (cs : List Char) : List (List Char) :=
  words (loosen cs)

@[simp]
theorem loosen_append (first second : List Char) :
    loosen (first ++ second) = loosen first ++ loosen second :=
  List.flatMap_append

@[simp]
theorem loosen_cons_of_delimiter {d : Char} (delimiter : isDelimiter d = true) (cs : List Char) :
    loosen (d :: cs) = ' ' :: d :: ' ' :: loosen cs := by
  rw [loosen, List.flatMap_cons, if_pos delimiter]
  rfl

@[simp]
theorem loosen_cons_of_plain {c : Char} (plain : isDelimiter c = false) (cs : List Char) :
    loosen (c :: cs) = c :: loosen cs := by
  rw [loosen, List.flatMap_cons, if_neg (by simp [plain])]
  rfl

theorem loosen_of_plain {cs : List Char} (plain : ∀ c ∈ cs, isDelimiter c = false) :
    loosen cs = cs := by
  induction cs with
  | nil => rfl
  | cons c cs ih =>
      obtain ⟨here, further⟩ := List.forall_mem_cons.mp plain
      rw [loosen_cons_of_plain here, ih further]

theorem loosen_of_blank {cs : List Char} (blank : ∀ c ∈ cs, isBlank c = true) :
    loosen cs = cs :=
  loosen_of_plain fun c member => isDelimiter_eq_false_of_isBlank (blank c member)

theorem looseWords_of_plain {cs : List Char} (plain : ∀ c ∈ cs, isDelimiter c = false) :
    looseWords cs = words cs := by
  rw [looseWords, loosen_of_plain plain]

@[simp]
theorem looseWords_blanks_append {before : List Char} (blank : ∀ c ∈ before, isBlank c = true)
    (cs : List Char) : looseWords (before ++ cs) = looseWords cs := by
  rw [looseWords, loosen_append, loosen_of_blank blank, words_blanks_append blank, looseWords]

@[simp]
theorem looseWords_append_blanks {after : List Char} (blank : ∀ c ∈ after, isBlank c = true)
    (cs : List Char) : looseWords (cs ++ after) = looseWords cs := by
  rw [looseWords, loosen_append, loosen_of_blank blank, words_append_blanks blank, looseWords]

@[simp]
theorem looseWords_trim (cs : List Char) : looseWords (trim cs) = looseWords cs := by
  obtain ⟨before, after, blank, alsoBlank, shape⟩ := exists_append_trim_append cs
  calc
    looseWords (trim cs) = looseWords (trim cs ++ after) :=
      (looseWords_append_blanks alsoBlank _).symm
    _ = looseWords (before ++ (trim cs ++ after)) := (looseWords_blanks_append blank _).symm
    _ = looseWords cs := congrArg looseWords shape.symm

@[simp]
theorem looseWords_append_delimiter {d : Char} (delimiter : isDelimiter d = true)
    (first second : List Char) :
    looseWords (first ++ d :: second) = looseWords first ++ [d] :: looseWords second := by
  have spaced : loosen (first ++ d :: second) =
      loosen first ++ ' ' :: ([d] ++ ' ' :: loosen second) := by
    rw [loosen_append, loosen_cons_of_delimiter delimiter]
    rfl
  have alone : words [d] = [[d]] :=
    words_eq_singleton (by simpa using isBlank_eq_false_of_isDelimiter delimiter) (by simp)
  rw [looseWords, spaced, words_append_cons (by decide), words_append_cons (by decide), alone]
  rfl

theorem looseWords_append_gap {gap : List Char} (blank : ∀ c ∈ gap, isBlank c = true)
    (parted : gap ≠ []) (first second : List Char) :
    looseWords (first ++ gap ++ second) = looseWords first ++ looseWords second := by
  obtain ⟨c, gap, rfl⟩ := List.exists_cons_of_ne_nil parted
  obtain ⟨isBlank, furtherBlank⟩ := List.forall_mem_cons.mp blank
  rw [looseWords, loosen_append, loosen_append, loosen_of_blank blank, List.append_assoc,
    List.cons_append, words_append_cons isBlank, words_blanks_append furtherBlank]
  rfl

/-! ### What the words hold -/

@[simp]
theorem filter_loosen (cs : List Char) :
    (loosen cs).filter (fun c => !isBlank c) = cs.filter fun c => !isBlank c := by
  induction cs with
  | nil => rfl
  | cons c cs ih =>
      cases delimiter : isDelimiter c with
      | true =>
          have filled := isBlank_eq_false_of_isDelimiter delimiter
          have space : isBlank ' ' = true := rfl
          simp [loosen_cons_of_delimiter delimiter, filled, space, ih]
      | false => rw [loosen_cons_of_plain delimiter, List.filter_cons, List.filter_cons, ih]

@[simp]
theorem flatten_splitWhere (p : Char → Bool) (cs : List Char) :
    (splitWhere p cs).flatten = cs.filter fun c => !p c := by
  induction cs with
  | nil => rfl
  | cons c cs ih =>
      cases belongs : p c with
      | true => simp [splitWhere_cons_of_separator belongs, ih, belongs]
      | false =>
          obtain ⟨piece, pieces, cut⟩ := List.exists_cons_of_ne_nil (splitWhere_ne_nil p cs)
          rw [cut] at ih
          simp [splitWhere_cons_of_not_separator belongs cut, ← ih, belongs]

@[simp]
theorem flatten_words (cs : List Char) :
    (words cs).flatten = cs.filter fun c => !isBlank c := by
  rw [words, List.flatten_filter_not_isEmpty, flatten_splitWhere]

@[simp]
theorem flatten_looseWords (cs : List Char) :
    (looseWords cs).flatten = cs.filter fun c => !isBlank c := by
  rw [looseWords, flatten_words, filter_loosen]

theorem ne_nil_of_mem_words {cs word : List Char} (isWord : word ∈ words cs) : word ≠ [] := by
  simpa using (List.mem_filter.mp isWord).2

theorem mem_of_mem_words {cs word : List Char} (isWord : word ∈ words cs) {c : Char}
    (member : c ∈ word) : c ∈ cs :=
  (mem_of_mem_splitWhere (List.mem_filter.mp isWord).1 member).1

/-- The same words hold the same characters. -/
theorem mem_iff_of_looseWords_eq {cs ds : List Char} (same : looseWords cs = looseWords ds)
    {c : Char} (filled : isBlank c = false) : c ∈ cs ↔ c ∈ ds := by
  have held (es : List Char) : c ∈ es ↔ c ∈ (looseWords es).flatten := by
    simp [filled]
  rw [held cs, held ds, same]

@[simp]
theorem words_eq_nil_iff {cs : List Char} : words cs = [] ↔ trim cs = [] := by
  rw [trim_eq_nil_iff]
  refine ⟨fun wordless => ?_, words_of_blank⟩
  have nothing := flatten_words cs
  rw [wordless] at nothing
  simpa using nothing.symm

theorem trimmed_of_filled {cs : List Char} (filled : ∀ c ∈ cs, isBlank c = false) : Trimmed cs :=
  ⟨fun c isFirst => filled c (List.mem_of_head? isFirst),
    fun c isLast => filled c (List.mem_of_getLast? isLast)⟩

theorem filled_of_mem_words {cs word : List Char} (isWord : word ∈ words cs) :
    ∀ c ∈ word, isBlank c = false :=
  fun _ member => (mem_of_mem_splitWhere (List.mem_filter.mp isWord).1 member).2

/-- The first word of a text that does not start with a blank, and what stands behind it. -/
theorem exists_words_cons {c : Char} (filled : isBlank c = false) (cs : List Char) :
    ∃ word after, words (c :: cs) = word :: words after ∧ c :: cs = word ++ after := by
  obtain ⟨piece, pieces, cut⟩ := List.exists_cons_of_ne_nil (splitWhere_ne_nil isBlank cs)
  have whole := splitWhere_cons_of_not_separator filled cut
  have first : words (c :: cs) = (c :: piece) :: pieces.filter fun piece => !piece.isEmpty := by
    simp [words, whole]
  rcases eq_of_splitWhere_eq_cons whole with ⟨shape, rfl⟩ | ⟨gap, after, blank, shape, rfl⟩
  · exact ⟨c :: piece, [], first, by simpa using shape⟩
  · have skipped : words ([gap] ++ after) = words after :=
      words_blanks_append (by simpa using blank) after
    exact ⟨c :: piece, gap :: after, first.trans (congrArg _ skipped.symm), shape⟩

/-- The words of a text can be read back from between single spaces. -/
theorem words_intercalate_space {pieces : List (List Char)}
    (filled : ∀ piece ∈ pieces, ∀ c ∈ piece, isBlank c = false)
    (notEmpty : ∀ piece ∈ pieces, piece ≠ []) : words ([' '].intercalate pieces) = pieces := by
  induction pieces with
  | nil => rfl
  | cons piece pieces ih =>
      have first := words_eq_singleton (filled piece List.mem_cons_self)
        (notEmpty piece List.mem_cons_self)
      have further := ih (fun other member => filled other (List.mem_cons_of_mem piece member))
        fun other member => notEmpty other (List.mem_cons_of_mem piece member)
      cases pieces with
      | nil => rw [List.intercalate_singleton, first]
      | cons next others =>
          rw [List.intercalate_cons_cons, List.append_assoc, List.singleton_append,
            words_append_cons rfl, first, further]
          rfl

@[simp]
theorem words_collapseBlanks (cs : List Char) : words (collapseBlanks cs) = words cs :=
  words_intercalate_space (fun _ => filled_of_mem_words) fun _ => ne_nil_of_mem_words

@[simp]
theorem collapseBlanks_collapseBlanks (cs : List Char) :
    collapseBlanks (collapseBlanks cs) = collapseBlanks cs := by
  rw [collapseBlanks, words_collapseBlanks]
  rfl

theorem words_eq_singleton_iff {cs word : List Char} :
    words cs = [word] ↔ trim cs = word ∧ word ≠ [] ∧ ∀ c ∈ word, isBlank c = false := by
  constructor
  · intro single
    have isWord : word ∈ words cs := by simp [single]
    have filled := filled_of_mem_words isWord
    refine ⟨?_, ne_nil_of_mem_words isWord, filled⟩
    have trimmed := trimmed_trim cs
    rw [← words_trim] at single
    cases text : trim cs with
    | nil =>
        rw [text] at single
        cases single
    | cons c rest =>
        rw [text] at single trimmed
        obtain ⟨first, after, cut, shape⟩ := exists_words_cons (trimmed.start c rfl) rest
        obtain ⟨rfl, wordless⟩ := List.cons.inj (cut.symm.trans single)
        have blank := trim_eq_nil_iff.mp (words_eq_nil_iff.mp wordless)
        rw [← trim_of_trimmed trimmed, shape, trim_append_blanks blank,
          trim_of_trimmed (trimmed_of_filled filled)]
  · rintro ⟨trimmed, notEmpty, filled⟩
    rw [← words_trim, trimmed, words_eq_singleton filled notEmpty]

@[simp]
theorem looseWords_eq_nil_iff {cs : List Char} : looseWords cs = [] ↔ trim cs = [] := by
  rw [trim_eq_nil_iff]
  constructor
  · intro wordless
    have nothing := flatten_looseWords cs
    rw [wordless] at nothing
    simpa using nothing.symm
  · intro blank
    rw [looseWords, loosen_of_blank blank, words_of_blank blank]

/-! ### The word at the end -/

theorem suffix_of_splitWhere_eq {p : Char → Bool} {cs last : List Char}
    {pieces : List (List Char)} (cut : splitWhere p cs = pieces ++ [last]) : last <:+ cs := by
  induction pieces generalizing cs with
  | nil =>
      rcases eq_of_splitWhere_eq_cons cut with ⟨rfl, -⟩ | ⟨separator, rest, -, -, none⟩
      · exact List.suffix_rfl
      · exact absurd none (splitWhere_ne_nil p rest)
  | cons piece pieces ih =>
      rcases eq_of_splitWhere_eq_cons cut with ⟨-, none⟩ | ⟨separator, rest, -, rfl, further⟩
      · simp at none
      · exact (ih further).trans ((List.suffix_cons separator rest).trans (List.suffix_append _ _))

theorem loosen_stop {front : List Char} (stop : ∀ c ∈ front.getLast?, isWordChar c = false) :
    ∀ c ∈ (loosen front).getLast?, isWordChar c = false := by
  rcases List.eq_nil_or_concat front with rfl | ⟨front, d, rfl⟩
  · simp [loosen]
  · rw [List.concat_eq_append] at stop ⊢
    rw [loosen_append]
    cases delimiter : isDelimiter d with
    | true =>
        rw [loosen_cons_of_delimiter delimiter]
        simp [loosen, isWordChar]
    | false =>
        rw [loosen_cons_of_plain delimiter]
        simpa [loosen] using stop

/-- A word at the end of a text ends the last of its words, which may begin in front of it. -/
theorem exists_looseWords_append_word {front word : List Char} (notEmpty : word ≠ [])
    (inWord : ∀ c ∈ word, isWordChar c = true)
    (stop : ∀ c ∈ front.getLast?, isWordChar c = false) :
    ∃ others stem, (∀ c ∈ stem.getLast?, isWordChar c = false) ∧
      looseWords (front ++ word) = others ++ [stem ++ word] ∧
        looseWords front = others ++ [stem].filter (fun piece => !piece.isEmpty) := by
  have filled : ∀ c ∈ word, isBlank c = false := fun c member =>
    isBlank_eq_false_of_isWordChar (inWord c member)
  have plain : ∀ c ∈ word, isDelimiter c = false := fun c member =>
    isDelimiter_eq_false_of_isWordChar (inWord c member)
  obtain ⟨pieces, last, cut, longer⟩ := exists_splitWhere_append (loosen front) filled
  refine ⟨pieces.filter fun piece => !piece.isEmpty, last, ?_, ?_, ?_⟩
  · obtain ⟨before, shape⟩ := suffix_of_splitWhere_eq cut
    intro c isLast
    refine loosen_stop stop c ?_
    rw [← shape, List.getLast?_append, Option.mem_def.mp isLast]
    rfl
  · rw [looseWords, loosen_append, loosen_of_plain plain, words, longer, List.filter_append]
    simp [notEmpty]
  · rw [looseWords, words, cut, List.filter_append]

/-- A text ends in one longest word. -/
theorem append_word_inj {stem word otherStem otherWord : List Char}
    (inWord : ∀ c ∈ word, isWordChar c = true) (inOther : ∀ c ∈ otherWord, isWordChar c = true)
    (stop : ∀ c ∈ stem.getLast?, isWordChar c = false)
    (otherStop : ∀ c ∈ otherStem.getLast?, isWordChar c = false)
    (same : stem ++ word = otherStem ++ otherWord) : stem = otherStem ∧ word = otherWord := by
  have shortest {stem longer between : List Char} (shape : longer = stem ++ between)
      (stop : ∀ c ∈ longer.getLast?, isWordChar c = false)
      (inBetween : ∀ c ∈ between, isWordChar c = true) : between = [] := by
    rcases List.eq_nil_or_concat between with isEmpty | ⟨between, c, rfl⟩
    · exact isEmpty
    · have outside := stop c (by simp [shape])
      cases (inBetween c (by simp)).symm.trans outside
  rcases List.append_eq_append_iff.mp same with ⟨between, shape, rfl⟩ | ⟨between, shape, rfl⟩
  · obtain rfl := shortest shape otherStop fun c member => inWord c (List.mem_append_left _ member)
    simp [shape]
  · obtain rfl := shortest shape stop fun c member => inOther c (List.mem_append_left _ member)
    simp [shape]

/-! ## Texts with other spacing -/

/-- The characters of a text that are neither spaces nor tabs. -/
def ink (cs : List Char) : List Char :=
  cs.filter fun c => !isSpacing c

/-- Two texts that differ in their spacing only, and only where it separates nothing or something in
both. -/
structure SpacedAlike (cs ds : List Char) : Prop where
  words : looseWords cs = looseWords ds
  ink : ink cs = ink ds

/-- Between the two texts the words part without a blank. -/
def Parts (first second : List Char) : Prop :=
  (∀ c ∈ first.getLast?, isDelimiter c = true) ∨
    (∀ c ∈ second.head?, isDelimiter c = true) ∨ ∀ c ∈ second, isBlank c = true

@[simp]
theorem ink_of_spacing {gap : List Char} (spacing : ∀ c ∈ gap, isSpacing c = true) :
    ink gap = [] := by
  simpa [ink] using spacing

theorem mem_of_mem_ink {cs : List Char} {c : Char} (member : c ∈ ink cs) : c ∈ cs :=
  (List.mem_filter.mp member).1

@[simp]
theorem ink_append (first second : List Char) : ink (first ++ second) = ink first ++ ink second :=
  List.filter_append ..

@[simp]
theorem ink_cons_of_filled {c : Char} (filled : isBlank c = false) (cs : List Char) :
    ink (c :: cs) = c :: ink cs := by
  cases spacing : isSpacing c with
  | true => cases filled.symm.trans (isBlank_of_isSpacing spacing)
  | false => simp [ink, spacing]

theorem looseWords_append_of_parts {first second : List Char} (parts : Parts first second) :
    looseWords (first ++ second) = looseWords first ++ looseWords second := by
  have wordless : looseWords [] = [] := rfl
  rcases parts with behind | ahead | blank
  · rcases List.eq_nil_or_concat first with rfl | ⟨first, d, rfl⟩
    · rfl
    · have delimiter : isDelimiter d = true := behind d (by simp)
      rw [List.concat_eq_append, List.append_assoc, List.singleton_append,
        looseWords_append_delimiter delimiter, looseWords_append_delimiter delimiter, wordless,
        List.append_assoc]
      rfl
  · cases second with
    | nil => rw [List.append_nil, wordless, List.append_nil]
    | cons d second =>
        have delimiter : isDelimiter d = true := ahead d rfl
        have alone := looseWords_append_delimiter delimiter [] second
        rw [looseWords_append_delimiter delimiter]
        exact congrArg _ alone.symm
  · rw [looseWords_append_blanks blank, looseWords, looseWords, loosen_of_blank blank,
      words_of_blank blank, List.append_nil]

theorem SpacedAlike.of_replaced {gap other : List Char} (spacing : ∀ c ∈ gap, isSpacing c = true)
    (alsoSpacing : ∀ c ∈ other, isSpacing c = true) (parted : gap ≠ []) (alsoParted : other ≠ [])
    (first second : List Char) :
    SpacedAlike (first ++ gap ++ second) (first ++ other ++ second) where
  words := by
    rw [looseWords_append_gap (fun c member => isBlank_of_isSpacing (spacing c member)) parted,
      looseWords_append_gap (fun c member => isBlank_of_isSpacing (alsoSpacing c member))
        alsoParted]
  ink := by
    rw [ink_append, ink_append, ink_append, ink_append, ink_of_spacing spacing,
      ink_of_spacing alsoSpacing]

theorem SpacedAlike.of_added {gap : List Char} (spacing : ∀ c ∈ gap, isSpacing c = true)
    {first second : List Char} (parts : Parts first second) :
    SpacedAlike (first ++ second) (first ++ gap ++ second) where
  words := by
    by_cases isEmpty : gap = []
    · rw [isEmpty, List.append_nil]
    · rw [looseWords_append_gap (fun c member => isBlank_of_isSpacing (spacing c member)) isEmpty,
        looseWords_append_of_parts parts]
  ink := by rw [ink_append, ink_append, ink_append, ink_of_spacing spacing, List.append_nil]

/-! ### Trimmed texts -/

theorem ink_of_trimmed {cs : List Char} (trimmed : Trimmed cs) :
    (ink cs).head? = cs.head? ∧ (ink cs).getLast? = cs.getLast? := by
  constructor
  · cases cs with
    | nil => rfl
    | cons c cs => rw [ink_cons_of_filled (trimmed.start c rfl), List.head?_cons, List.head?_cons]
  · rcases List.eq_nil_or_concat cs with rfl | ⟨cs, c, rfl⟩
    · rfl
    · have filled : isBlank c = false := trimmed.stop c (by simp)
      rw [List.concat_eq_append, ink_append, ink_cons_of_filled filled]
      simp [ink]

@[simp]
theorem ink_trim (cs : List Char) : ink (trim cs) = trim (ink cs) := by
  obtain ⟨before, after, blank, alsoBlank, shape⟩ := exists_append_trim_append cs
  have trimmed := trimmed_trim cs
  obtain ⟨first, last⟩ := ink_of_trimmed trimmed
  have inkTrimmed : Trimmed (ink (trim cs)) := ⟨first ▸ trimmed.start, last ▸ trimmed.stop⟩
  have whole : ink cs = ink before ++ (ink (trim cs) ++ ink after) := by
    rw [← ink_append, ← ink_append, ← shape]
  rw [whole, trim_append (fun c member => blank c (mem_of_mem_ink member)) inkTrimmed
    fun c member => alsoBlank c (mem_of_mem_ink member)]

theorem SpacedAlike.trim {cs ds : List Char} (alike : SpacedAlike cs ds) :
    SpacedAlike (trim cs) (trim ds) where
  words := by rw [looseWords_trim, looseWords_trim, alike.words]
  ink := by rw [ink_trim, ink_trim, alike.ink]

end Text
end BindingGen
