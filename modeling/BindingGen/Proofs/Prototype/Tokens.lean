import BindingGen.Proofs.Text.Words
import BindingGen.Prototype.Token

/-!
# Tokens of joined texts

The tokens of a type text come from its words, so blanks only matter as separators.  A star is a
token in front of whatever follows, and a run of other characters is one word as long as it is
followed by a blank, a star or nothing.
-/

namespace BindingGen
namespace Prototype
namespace Token

open Text

theorem ofText_append_cons {c : Char} (blank : isBlank c = true) (first second : List Char) :
    ofText (first ++ c :: second) = ofText first ++ ofText second := by
  rw [ofText, words_append_cons blank, List.flatMap_append]
  rfl

@[simp]
theorem ofText_blanks_append {before : List Char} (blank : ∀ c ∈ before, isBlank c = true)
    (cs : List Char) : ofText (before ++ cs) = ofText cs := by
  rw [ofText, words_blanks_append blank]
  rfl

@[simp]
theorem ofText_blank_cons {c : Char} (blank : isBlank c = true) (cs : List Char) :
    ofText (c :: cs) = ofText cs := by
  have skipped : ofText ([c] ++ cs) = ofText cs :=
    ofText_blanks_append (by simpa using blank) cs
  exact skipped

@[simp]
theorem ofText_of_blank {cs : List Char} (blank : ∀ c ∈ cs, isBlank c = true) :
    ofText cs = [] := by
  rw [ofText, words_of_blank blank]
  rfl

@[simp]
theorem ofText_trim (cs : List Char) : ofText (trim cs) = ofText cs := by
  rw [ofText, words_trim]
  rfl

theorem prepend_append (c : Char) {following : List Token} (notEmpty : following ≠ [])
    (rest : List Token) : prepend c (following ++ rest) = prepend c following ++ rest := by
  obtain ⟨first, others, rfl⟩ := List.exists_cons_of_ne_nil notEmpty
  by_cases isStar : c = '*'
  · simp [prepend, isStar]
  · cases first <;> simp [prepend, isStar]

theorem ofWord_ne_nil {word : List Char} (notEmpty : word ≠ []) : ofWord word ≠ [] := by
  obtain ⟨c, cs, rfl⟩ := List.exists_cons_of_ne_nil notEmpty
  unfold ofWord prepend
  split
  · simp
  · split <;> simp

/-- A character joins the token that directly follows it. -/
theorem ofText_cons_cons {c d : Char} (filled : isBlank c = false) (alsoFilled : isBlank d = false)
    (cs : List Char) : ofText (c :: d :: cs) = prepend c (ofText (d :: cs)) := by
  obtain ⟨word, others, next, notEmpty, joined⟩ := exists_words_cons_cons filled alsoFilled cs
  rw [ofText, joined, ofText, next, List.flatMap_cons, List.flatMap_cons, ofWord,
    prepend_append c (ofWord_ne_nil notEmpty)]

/-- A character in front of a blank is a token of its own. -/
theorem ofText_cons_of_apart {c : Char} (filled : isBlank c = false) {cs : List Char}
    (apart : ∀ d ∈ cs.head?, isBlank d = true) : ofText (c :: cs) = prepend c [] ++ ofText cs := by
  have alone : ofText [c] = prepend c [] := by
    rw [ofText, words_eq_singleton (by simpa using filled) (by simp)]
    simp [ofWord]
  cases cs with
  | nil => rw [alone, ofText_of_blank (by simp), List.append_nil]
  | cons d cs =>
      have blank := apart d rfl
      have parted := ofText_append_cons blank [c] cs
      have skipped : ofText ([d] ++ cs) = ofText cs :=
        ofText_blanks_append (by simpa using blank) cs
      rw [← alone]
      exact parted.trans (congrArg (ofText [c] ++ ·) skipped.symm)

@[simp]
theorem ofText_star_cons (cs : List Char) : ofText ('*' :: cs) = star :: ofText cs := by
  have filled : isBlank '*' = false := by decide
  cases cs with
  | nil => exact ofText_cons_of_apart filled (by simp)
  | cons d cs =>
      cases next : isBlank d with
      | true => exact ofText_cons_of_apart filled (by simpa using next)
      | false => exact ofText_cons_cons filled next cs

theorem ofText_word_append {word rest : List Char} (notEmpty : word ≠ [])
    (inWord : ∀ c ∈ word, isBlank c = false ∧ c ≠ '*')
    (apart : ∀ d ∈ rest.head?, isBlank d = true ∨ d = '*') :
    ofText (word ++ rest) = .word word :: ofText rest := by
  induction word with
  | nil => exact absurd rfl notEmpty
  | cons c cs ih =>
      obtain ⟨filled, notStar⟩ := inWord c List.mem_cons_self
      have starts (following : List Token) :
          prepend c (.word cs :: following) = .word (c :: cs) :: following := by
        simp [prepend, notStar]
      cases cs with
      | cons d cs =>
          have later := fun e member => inWord e (List.mem_cons_of_mem c member)
          have next := (later d List.mem_cons_self).1
          have further : ofText (d :: cs ++ rest) = .word (d :: cs) :: ofText rest :=
            ih (by simp) later
          rw [← starts, ← further]
          exact ofText_cons_cons filled next (cs ++ rest)
      | nil =>
          have alone : prepend c [] = [.word [c]] := by simp [prepend, notStar]
          cases rest with
          | nil => rw [List.append_nil, ofText_cons_of_apart filled (by simp), alone]; rfl
          | cons d rest =>
              rcases apart d rfl with blank | rfl
              · have parted : ofText (c :: d :: rest) = prepend c [] ++ ofText (d :: rest) :=
                  ofText_cons_of_apart filled (by simpa using blank)
                rwa [alone] at parted
              · rw [List.cons_append, List.nil_append, ofText_cons_cons filled (by decide),
                  ofText_star_cons]
                simp [prepend, notStar]

/-- A text that starts with neither a blank nor a star starts with a word. -/
theorem exists_word_append {c : Char} (filled : isBlank c = false) (notStar : c ≠ '*')
    (cs : List Char) :
    ∃ word rest, c :: cs = word ++ rest ∧ word ≠ [] ∧
      (∀ d ∈ word, isBlank d = false ∧ d ≠ '*') ∧
        ∀ d ∈ rest.head?, isBlank d = true ∨ d = '*' := by
  let inWord := fun d => !isBlank d && d != '*'
  refine ⟨(c :: cs).takeWhile inWord, (c :: cs).dropWhile inWord,
    List.takeWhile_append_dropWhile.symm, ?_, ?_, ?_⟩
  · simp [inWord, filled, notStar]
  · intro d member
    have isInWord := List.all_eq_true.mp List.all_takeWhile d member
    simpa [inWord] using isInWord
  · intro d first
    have stopped := List.head?_dropWhile_not inWord (c :: cs)
    rw [Option.mem_def.mp first] at stopped
    by_cases isStar : d = '*'
    · exact .inr isStar
    · simpa [inWord, isStar] using stopped

/-- A text is empty, or has a blank, a star or a word that is as long as it can be in front of a
shorter one. -/
@[elab_as_elim]
theorem textInduction {motive : List Char → Prop} (nil : motive [])
    (blank : ∀ c cs, isBlank c = true → motive cs → motive (c :: cs))
    (star : ∀ cs, motive cs → motive ('*' :: cs))
    (word : ∀ word rest, word ≠ [] → (∀ c ∈ word, isBlank c = false ∧ c ≠ '*') →
      (∀ d ∈ rest.head?, isBlank d = true ∨ d = '*') → motive rest → motive (word ++ rest))
    (cs : List Char) : motive cs := by
  induction length : cs.length using Nat.strongRecOn generalizing cs with
  | ind n ih =>
      subst length
      cases cs with
      | nil => exact nil
      | cons c cs =>
          have shorter : cs.length < (c :: cs).length := by simp
          cases isBlank : isBlank c with
          | true => exact blank c cs isBlank (ih _ shorter cs rfl)
          | false =>
              by_cases isStar : c = '*'
              · subst isStar
                exact star cs (ih _ shorter cs rfl)
              · obtain ⟨front, rest, shape, notEmpty, inWord, stops⟩ :=
                  exists_word_append isBlank isStar cs
                rw [shape] at ih ⊢
                have shorterRest : rest.length < (front ++ rest).length := by
                  have positive := List.length_pos_iff.mpr notEmpty
                  rw [List.length_append]
                  omega
                exact word front rest notEmpty inWord stops (ih _ shorterRest rest rfl)

end Token
end Prototype
end BindingGen
