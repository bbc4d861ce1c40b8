import BindingGen.Proofs.Text.Characters

/-!
# Trimming and cutting into words

A text is blanks, its trimmed form and blanks again.  Its words do not depend on how many blanks
stand at a place, so trimming leaves them alone, and collapsing joins them by single spaces.
-/

namespace BindingGen
namespace Text

@[grind →]
theorem isBlank_of_isAsciiBlank {c : Char} (blank : isAsciiBlank c = true) : isBlank c = true := by
  simp only [isAsciiBlank, Bool.or_eq_true, beq_iff_eq] at blank
  rcases blank with (((rfl | rfl) | rfl) | rfl) | rfl <;> rfl

theorem toNat_of_isWordChar {c : Char} (word : isWordChar c = true) :
    48 ≤ c.toNat ∧ c.toNat ≤ 122 := by
  have codes : ((decide (65 ≤ c.val ∧ c.val ≤ 90) || (97 ≤ c.val && c.val ≤ 122)) ||
      (48 ≤ c.val && c.val ≤ 57) || c == '_') = true := word
  simp only [Bool.or_eq_true, Bool.and_eq_true, decide_eq_true_eq, beq_iff_eq,
    UInt32.le_iff_toNat_le] at codes
  rcases codes with ranges | rfl
  · change (65 ≤ c.toNat ∧ c.toNat ≤ 90 ∨ 97 ≤ c.toNat ∧ c.toNat ≤ 122) ∨
      48 ≤ c.toNat ∧ c.toNat ≤ 57 at ranges
    omega
  · decide

@[grind →]
theorem isBlank_eq_false_of_isWordChar {c : Char} (word : isWordChar c = true) :
    isBlank c = false := by
  have codes := toNat_of_isWordChar word
  simp only [isBlank, Bool.or_eq_false_iff, Bool.and_eq_false_iff, beq_eq_false_iff_ne, ne_eq,
    decide_eq_false_iff_not]
  omega

/-! ## Trimming -/

/-- A text without blanks at its ends. -/
structure Trimmed (cs : List Char) : Prop where
  start : ∀ c ∈ cs.head?, isBlank c = false
  stop : ∀ c ∈ cs.getLast?, isBlank c = false

theorem trimStart_append {before cs : List Char} (blank : ∀ c ∈ before, isBlank c = true)
    (start : ∀ c ∈ cs.head?, isBlank c = false) : trimStart (before ++ cs) = cs := by
  rw [trimStart, List.dropWhile_append_of_pos blank]
  cases cs with
  | nil => rfl
  | cons c cs => simp [start c rfl]

theorem trimEnd_append {cs after : List Char} (stop : ∀ c ∈ cs.getLast?, isBlank c = false)
    (blank : ∀ c ∈ after, isBlank c = true) : trimEnd (cs ++ after) = cs := by
  have reversed : trimStart (after.reverse ++ cs.reverse) = cs.reverse :=
    trimStart_append (by simpa using blank) (by simpa using stop)
  rw [trimEnd, List.reverse_append]
  exact (congrArg List.reverse reversed).trans cs.reverse_reverse

theorem trim_append {before cs after : List Char} (blank : ∀ c ∈ before, isBlank c = true)
    (trimmed : Trimmed cs) (alsoBlank : ∀ c ∈ after, isBlank c = true) :
    trim (before ++ (cs ++ after)) = cs := by
  cases cs with
  | nil =>
      have onlyBlanks : ∀ c ∈ before ++ ([] ++ after), isBlank c = true := by
        intro c member
        rcases List.mem_append.mp member with early | late
        · exact blank c early
        · exact alsoBlank c late
      have nothing : trimStart (before ++ ([] ++ after) ++ []) = [] :=
        trimStart_append onlyBlanks (by simp)
      rw [List.append_nil] at nothing
      rw [trim, nothing]
      rfl
  | cons c cs =>
      have start : ∀ d ∈ (c :: cs ++ after).head?, isBlank d = false := trimmed.start
      rw [trim, trimStart_append blank start, trimEnd_append trimmed.stop alsoBlank]

theorem trim_of_trimmed {cs : List Char} (trimmed : Trimmed cs) : trim cs = cs := by
  have surrounded : trim ([] ++ (cs ++ [])) = cs := trim_append (by simp) trimmed (by simp)
  simpa using surrounded

theorem exists_append_trimStart (cs : List Char) :
    ∃ before, (∀ c ∈ before, isBlank c = true) ∧ cs = before ++ trimStart cs :=
  ⟨cs.takeWhile isBlank, fun _ member => List.all_eq_true.mp List.all_takeWhile _ member,
    List.takeWhile_append_dropWhile.symm⟩

theorem exists_trimEnd_append (cs : List Char) :
    ∃ after, (∀ c ∈ after, isBlank c = true) ∧ cs = trimEnd cs ++ after := by
  obtain ⟨before, blank, shape⟩ := exists_append_trimStart cs.reverse
  refine ⟨before.reverse, by simpa using blank, ?_⟩
  have reversed := congrArg List.reverse shape
  rwa [List.reverse_reverse, List.reverse_append] at reversed

theorem mem_of_mem_trimEnd {cs : List Char} {c : Char} (member : c ∈ trimEnd cs) : c ∈ cs := by
  obtain ⟨after, -, shape⟩ := exists_trimEnd_append cs
  rw [shape]
  exact List.mem_append_left after member

theorem trimStart_start (cs : List Char) : ∀ c ∈ (trimStart cs).head?, isBlank c = false := by
  intro c isFirst
  have stopped := List.head?_dropWhile_not isBlank cs
  rw [← trimStart, Option.mem_def.mp isFirst] at stopped
  exact stopped

theorem trimEnd_stop (cs : List Char) : ∀ c ∈ (trimEnd cs).getLast?, isBlank c = false := by
  rw [trimEnd, List.getLast?_reverse]
  exact trimStart_start cs.reverse

theorem trimmed_trim (cs : List Char) : Trimmed (trim cs) := by
  refine ⟨?_, trimEnd_stop (trimStart cs)⟩
  obtain ⟨after, -, shape⟩ := exists_trimEnd_append (trimStart cs)
  intro c isFirst
  apply trimStart_start cs
  rw [shape, ← trim, List.head?_append, Option.mem_def.mp isFirst]
  rfl

theorem exists_append_trim_append (cs : List Char) :
    ∃ before after, (∀ c ∈ before, isBlank c = true) ∧ (∀ c ∈ after, isBlank c = true) ∧
      cs = before ++ (trim cs ++ after) := by
  obtain ⟨before, blank, shape⟩ := exists_append_trimStart cs
  obtain ⟨after, alsoBlank, rest⟩ := exists_trimEnd_append (trimStart cs)
  refine ⟨before, after, blank, alsoBlank, ?_⟩
  rw [trim, ← rest]
  exact shape

@[simp]
theorem trim_blanks_append {before : List Char} (blank : ∀ c ∈ before, isBlank c = true)
    (cs : List Char) : trim (before ++ cs) = trim cs := by
  rw [trim, trimStart, List.dropWhile_append_of_pos blank]
  rfl

@[simp]
theorem trim_append_blanks {after : List Char} (blank : ∀ c ∈ after, isBlank c = true)
    (cs : List Char) : trim (cs ++ after) = trim cs := by
  obtain ⟨start, stop, startBlank, stopBlank, shape⟩ := exists_append_trim_append cs
  have whole : cs ++ after = start ++ (trim cs ++ (stop ++ after)) := by
    conv => lhs; rw [shape]
    simp
  rw [whole]
  refine trim_append startBlank (trimmed_trim cs) fun c member => ?_
  exact (List.mem_append.mp member).elim (stopBlank c) (blank c)

theorem trim_eq_nil_iff {cs : List Char} : trim cs = [] ↔ ∀ c ∈ cs, isBlank c = true := by
  obtain ⟨before, after, blank, alsoBlank, shape⟩ := exists_append_trim_append cs
  constructor
  · intro isEmpty c member
    rw [shape, isEmpty, List.nil_append, List.mem_append] at member
    exact member.elim (blank c) (alsoBlank c)
  · intro onlyBlanks
    have nothing : trim (cs ++ ([] ++ [])) = [] :=
      trim_append onlyBlanks ⟨by simp, by simp⟩ (by simp)
    rwa [List.append_nil, List.append_nil] at nothing

section Pieces

variable {p : Char → Bool} (inPieces : ∀ c, isBlank c = true → p c = false)
include inPieces

theorem map_trim_splitWhere_blanks_append {before : List Char}
    (blank : ∀ c ∈ before, isBlank c = true) (cs : List Char) :
    (splitWhere p (before ++ cs)).map trim = (splitWhere p cs).map trim := by
  induction before with
  | nil => rfl
  | cons c before ih =>
      have further := ih fun d member => blank d (List.mem_cons_of_mem c member)
      have here := blank c List.mem_cons_self
      obtain ⟨piece, pieces, cut⟩ :=
        List.exists_cons_of_ne_nil (splitWhere_ne_nil p (before ++ cs))
      have shorter : trim ([c] ++ piece) = trim piece :=
        trim_blanks_append (by simpa using here) piece
      rw [List.cons_append, splitWhere_cons_of_not_separator (inPieces c here) cut, ← further, cut,
        List.map_cons, List.map_cons, ← shorter, List.singleton_append]

theorem map_trim_splitWhere_append_blanks {after : List Char}
    (blank : ∀ c ∈ after, isBlank c = true) (cs : List Char) :
    (splitWhere p (cs ++ after)).map trim = (splitWhere p cs).map trim := by
  obtain ⟨pieces, last, cut, longer⟩ :=
    exists_splitWhere_append cs fun c member => inPieces c (blank c member)
  rw [longer, cut, List.map_append, List.map_append, List.map_singleton, List.map_singleton,
    trim_append_blanks blank]

/-- Blanks at the ends of a text stay at the ends of its pieces. -/
theorem map_trim_splitWhere_trim (cs : List Char) :
    (splitWhere p (trim cs)).map trim = (splitWhere p cs).map trim := by
  obtain ⟨before, after, blank, alsoBlank, shape⟩ := exists_append_trim_append cs
  calc
    (splitWhere p (trim cs)).map trim = (splitWhere p (trim cs ++ after)).map trim :=
      (map_trim_splitWhere_append_blanks inPieces alsoBlank _).symm
    _ = (splitWhere p (before ++ (trim cs ++ after))).map trim :=
      (map_trim_splitWhere_blanks_append inPieces blank _).symm
    _ = (splitWhere p cs).map trim := congrArg (fun ds => (splitWhere p ds).map trim) shape.symm

end Pieces

/-! ## Words -/

/-- A blank belongs to no word and parts those around it. -/
theorem words_append_cons {c : Char} (blank : isBlank c = true) (first second : List Char) :
    words (first ++ c :: second) = words first ++ words second := by
  rw [words, splitWhere_append_separator blank, List.filter_append]
  rfl

@[simp]
theorem words_of_blank {cs : List Char} (blank : ∀ c ∈ cs, isBlank c = true) : words cs = [] := by
  induction cs with
  | nil => rfl
  | cons c cs ih =>
      have rest := ih fun d member => blank d (List.mem_cons_of_mem c member)
      have parted := words_append_cons (blank c List.mem_cons_self) [] cs
      exact parted.trans rest

@[simp]
theorem words_blanks_append {before : List Char} (blank : ∀ c ∈ before, isBlank c = true)
    (cs : List Char) : words (before ++ cs) = words cs := by
  induction before with
  | nil => rfl
  | cons c before ih =>
      have rest := ih fun d member => blank d (List.mem_cons_of_mem c member)
      have parted := words_append_cons (blank c List.mem_cons_self) [] (before ++ cs)
      exact parted.trans rest

@[simp]
theorem words_append_blanks {after : List Char} (blank : ∀ c ∈ after, isBlank c = true)
    (cs : List Char) : words (cs ++ after) = words cs := by
  cases after with
  | nil => rw [List.append_nil]
  | cons c after =>
      have rest := words_of_blank fun d member => blank d (List.mem_cons_of_mem c member)
      rw [words_append_cons (blank c List.mem_cons_self), rest, List.append_nil]

@[simp]
theorem words_trim (cs : List Char) : words (trim cs) = words cs := by
  obtain ⟨before, after, blank, alsoBlank, shape⟩ := exists_append_trim_append cs
  calc
    words (trim cs) = words (trim cs ++ after) := (words_append_blanks alsoBlank _).symm
    _ = words (before ++ (trim cs ++ after)) := (words_blanks_append blank _).symm
    _ = words cs := congrArg words shape.symm

theorem words_eq_singleton {cs : List Char} (filled : ∀ c ∈ cs, isBlank c = false)
    (notEmpty : cs ≠ []) : words cs = [cs] := by
  rw [words, splitWhere_eq_singleton filled]
  simp [notEmpty]

theorem words_cons_ne_nil {c : Char} (filled : isBlank c = false) (cs : List Char) :
    words (c :: cs) ≠ [] := by
  obtain ⟨piece, pieces, cut⟩ := List.exists_cons_of_ne_nil (splitWhere_ne_nil isBlank cs)
  rw [words, splitWhere_cons_of_not_separator filled cut]
  simp

/-- Two characters in a row that are no blanks belong to one word. -/
theorem exists_words_cons_cons {c d : Char} (filled : isBlank c = false)
    (alsoFilled : isBlank d = false) (cs : List Char) :
    ∃ word others, words (d :: cs) = word :: others ∧ word ≠ [] ∧
      words (c :: d :: cs) = (c :: word) :: others := by
  obtain ⟨piece, pieces, cut⟩ := List.exists_cons_of_ne_nil (splitWhere_ne_nil isBlank cs)
  have next := splitWhere_cons_of_not_separator alsoFilled cut
  refine ⟨d :: piece, pieces.filter fun piece => !piece.isEmpty, ?_, by simp, ?_⟩
  · rw [words, next]
    simp
  · rw [words, splitWhere_cons_of_not_separator filled next]
    simp

/-! ## Collapsing -/

@[simp]
theorem collapseBlanks_append_blanks {after : List Char} (blank : ∀ c ∈ after, isBlank c = true)
    (cs : List Char) : collapseBlanks (cs ++ after) = collapseBlanks cs := by
  rw [collapseBlanks, words_append_blanks blank]
  rfl

@[simp]
theorem collapseBlanks_blanks_append {before : List Char} (blank : ∀ c ∈ before, isBlank c = true)
    (cs : List Char) : collapseBlanks (before ++ cs) = collapseBlanks cs := by
  rw [collapseBlanks, words_blanks_append blank]
  rfl

@[simp]
theorem collapseBlanks_trim (cs : List Char) : collapseBlanks (trim cs) = collapseBlanks cs := by
  rw [collapseBlanks, words_trim]
  rfl

theorem collapseBlanks_of_filled {cs : List Char} (filled : ∀ c ∈ cs, isBlank c = false)
    (notEmpty : cs ≠ []) : collapseBlanks cs = cs := by
  rw [collapseBlanks, words_eq_singleton filled notEmpty, List.intercalate_singleton]

/-- Blanks between a word and a later one become one space. -/
theorem collapseBlanks_append {word gap rest : List Char} (filled : ∀ c ∈ word, isBlank c = false)
    (notEmpty : word ≠ []) (blank : ∀ c ∈ gap, isBlank c = true) (parted : gap ≠ [])
    (continues : words rest ≠ []) :
    collapseBlanks (word ++ (gap ++ rest)) = word ++ ' ' :: collapseBlanks rest := by
  obtain ⟨c, gap, rfl⟩ := List.exists_cons_of_ne_nil parted
  obtain ⟨next, others, isNext⟩ := List.exists_cons_of_ne_nil continues
  have further := words_blanks_append
    (fun d member => blank d (List.mem_cons_of_mem c member)) rest
  rw [collapseBlanks, List.cons_append, words_append_cons (blank c List.mem_cons_self),
    words_eq_singleton filled notEmpty, further, collapseBlanks, isNext]
  simp [List.intercalate_cons_cons]

end Text
end BindingGen
