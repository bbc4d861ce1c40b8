import BindingGen.Proofs.Prototype.Scanning
import BindingGen.Proofs.Prototype.Tokens
import BindingGen.Proofs.Text.Spacing

/-!
# The tokens of a text

Tokens lose nothing of a text but its blanks.  Every star is a token, and so is every run of
characters between blanks, stars and the ends of the text, as a whole and on its own.  How many
blanks there are at a place makes no difference, so collapsing them keeps the tokens.
-/

namespace BindingGen
namespace Prototype
namespace Token

open Text

/-- A star, or a word that is not empty and holds neither blanks nor stars. -/
def Proper (token : Token) : Prop :=
  token = .star ∨
    ∃ word, token = .word word ∧ word ≠ [] ∧ ∀ c ∈ word, isBlank c = false ∧ c ≠ '*'

theorem proper_of_mem_ofText {cs : List Char} {token : Token} (member : token ∈ ofText cs) :
    token.Proper := by
  induction cs using textInduction with
  | nil => cases member
  | blank c cs blank ih =>
      rw [ofText_blank_cons blank] at member
      exact ih member
  | star cs ih =>
      rw [ofText_star_cons] at member
      rcases List.mem_cons.mp member with rfl | later
      · exact .inl rfl
      · exact ih later
  | word word rest notEmpty inWord stops ih =>
      rw [ofText_word_append notEmpty inWord stops] at member
      rcases List.mem_cons.mp member with rfl | later
      · exact .inr ⟨word, rfl, notEmpty, inWord⟩
      · exact ih later

/-- The tokens of a text spell it without its blanks. -/
@[simp]
theorem flatMap_text_ofText (cs : List Char) :
    (ofText cs).flatMap text = cs.filter fun c => !isBlank c := by
  induction cs using textInduction with
  | nil => rfl
  | blank c cs blank ih => rw [ofText_blank_cons blank, ih]; simp [blank]
  | star cs ih =>
      have filled : isBlank '*' = false := rfl
      rw [ofText_star_cons, List.flatMap_cons, ih]
      simp [text, filled]
  | word word rest notEmpty inWord stops ih =>
      have kept : (word.filter fun c => !isBlank c) = word := by
        rw [List.filter_eq_self]
        intro c member
        simp [(inWord c member).1]
      rw [ofText_word_append notEmpty inWord stops, List.flatMap_cons, ih, List.filter_append, kept,
        text]

/-! ## Places -/

/-- What stands around a word: on either side a blank, a star or nothing. -/
structure Delimited (before after : List Char) : Prop where
  front : ∀ c ∈ before.getLast?, isBlank c = true ∨ c = '*'
  behind : ∀ c ∈ after.head?, isBlank c = true ∨ c = '*'

theorem Delimited.cons {before after : List Char} (delimited : Delimited before after) {c : Char}
    (ends : isBlank c = true ∨ c = '*') : Delimited (c :: before) after where
  front := by
    cases before with
    | nil => simpa using ends
    | cons d before => simpa using delimited.front
  behind := delimited.behind

/-- A word does not start where another one has to end. -/
theorem Proper.ne_nil_of_stops {token : Token} (proper : token.Proper) (isWord : token ≠ .star)
    {before after : List Char}
    (stops : ∀ c ∈ (before ++ (token.text ++ after)).head?, isBlank c = true ∨ c = '*') :
    before ≠ [] := by
  rintro rfl
  obtain isStar | ⟨word, rfl, notEmpty, inWord⟩ := proper
  · exact isWord isStar
  · obtain ⟨c, cs, rfl⟩ := List.exists_cons_of_ne_nil notEmpty
    obtain ⟨filled, notStar⟩ := inWord c List.mem_cons_self
    have ends := stops c rfl
    simp [filled, notStar] at ends

/-- Each token of a text stands at a place of its own: the tokens in front of it are those of the
text in front of the place, and the tokens behind it those of the text behind it. -/
theorem exists_place {cs : List Char} {left right : List Token} {token : Token}
    (tokens : ofText cs = left ++ token :: right) :
    ∃ before after, cs = before ++ (token.text ++ after) ∧ ofText before = left ∧
      ofText after = right ∧ (token ≠ .star → Delimited before after) := by
  have proper : token.Proper := proper_of_mem_ofText (by rw [tokens]; simp)
  induction cs using textInduction generalizing left with
  | nil => exact absurd tokens.symm (by simp [ofText, words, splitWhere])
  | blank c cs blank ih =>
      rw [ofText_blank_cons blank] at tokens
      obtain ⟨before, after, rfl, isLeft, isRight, delimited⟩ := ih tokens
      exact ⟨c :: before, after, rfl, (ofText_blank_cons blank before).trans isLeft, isRight,
        fun isWord => (delimited isWord).cons (.inl blank)⟩
  | star cs ih =>
      rw [ofText_star_cons] at tokens
      cases left with
      | nil =>
          obtain ⟨rfl, rfl⟩ := List.cons.inj tokens
          exact ⟨[], cs, rfl, rfl, rfl, fun isWord => absurd rfl isWord⟩
      | cons first left =>
          obtain ⟨rfl, further⟩ := List.cons.inj tokens
          obtain ⟨before, after, rfl, rfl, isRight, delimited⟩ := ih further
          exact ⟨'*' :: before, after, rfl, ofText_star_cons before, isRight,
            fun isWord => (delimited isWord).cons (.inr rfl)⟩
  | word word rest notEmpty inWord stops ih =>
      rw [ofText_word_append notEmpty inWord stops] at tokens
      cases left with
      | nil =>
          obtain ⟨rfl, rfl⟩ := List.cons.inj tokens
          exact ⟨[], rest, rfl, rfl, rfl, fun _ => ⟨by simp, stops⟩⟩
      | cons first left =>
          obtain ⟨rfl, further⟩ := List.cons.inj tokens
          obtain ⟨before, after, rfl, rfl, isRight, delimited⟩ := ih further
          have behindWord : ∀ c ∈ before.head?, isBlank c = true ∨ c = '*' := by
            intro c isFirst
            exact stops c (by rw [List.head?_append, Option.mem_def.mp isFirst]; rfl)
          refine ⟨word ++ before, after, by simp,
            ofText_word_append notEmpty inWord behindWord, isRight, ?_⟩
          intro isWord
          refine ⟨?_, (delimited isWord).behind⟩
          obtain ⟨d, before, rfl⟩ :=
            List.exists_cons_of_ne_nil (proper.ne_nil_of_stops isWord stops)
          simpa using (delimited isWord).front

/-- Between two words stands a blank or a star. -/
theorem exists_places {cs : List Char} {left middle right : List Token} {first second : List Char}
    (tokens : ofText cs = left ++ .word first :: (middle ++ .word second :: right)) :
    ∃ before between after, cs = before ++ (first ++ (between ++ (second ++ after))) ∧
      ofText before = left ∧ ofText between = middle ∧ ofText after = right ∧
        ∃ c ∈ between, isBlank c = true ∨ c = '*' := by
  obtain ⟨before, behind, rfl, isLeft, isRest, delimited⟩ := exists_place tokens
  obtain ⟨between, after, rfl, isMiddle, isRight, -⟩ := exists_place isRest
  refine ⟨before, between, after, rfl, isLeft, isMiddle, isRight, ?_⟩
  have stops := (delimited (by simp)).behind
  have proper : (Token.word second).Proper := proper_of_mem_ofText (by rw [isRest]; simp)
  obtain ⟨c, between, rfl⟩ :=
    List.exists_cons_of_ne_nil (proper.ne_nil_of_stops (by simp) stops)
  exact ⟨c, List.mem_cons_self, stops c rfl⟩

/-! ## Collapsed texts -/

@[simp]
theorem ofText_collapseBlanks (cs : List Char) : ofText (collapseBlanks cs) = ofText cs := by
  rw [ofText, words_collapseBlanks]
  rfl

/-- Scanning a word takes no more rounds than the word has characters, so scanning a text ends,
and it gives the tokens of the text.  Each of these is a star or a word that is not empty and holds
neither blanks nor stars; together they spell the text without its blanks.  Each stands at a place
of its own, a word between blanks, stars or the ends of the text, so two words never come from one
unbroken run.  Collapsing blanks twice is collapsing them once, it keeps the tokens, and it
therefore keeps whether they form a type. -/
theorem tokens_are_stars_and_runs (cs : List Char) :
    (∀ word tokens n, word.length ≤ n →
      Scan.rounds n ⟨tokens, word⟩ = .ok ⟨tokens ++ ofWord word, []⟩) ∧
    scanText cs = .ok (ofText cs) ∧
    (∀ token ∈ ofText cs, token.Proper) ∧
    (ofText cs).flatMap text = cs.filter (fun c => !isBlank c) ∧
    (∀ left token right, ofText cs = left ++ token :: right →
      ∃ before after, cs = before ++ (token.text ++ after) ∧ ofText before = left ∧
        ofText after = right ∧ (token ≠ .star → Delimited before after)) ∧
    (∀ left first middle second right,
      ofText cs = left ++ .word first :: (middle ++ .word second :: right) →
        ∃ before between after, cs = before ++ (first ++ (between ++ (second ++ after))) ∧
          ofText before = left ∧ ofText between = middle ∧ ofText after = right ∧
            ∃ c ∈ between, isBlank c = true ∨ c = '*') ∧
    collapseBlanks (collapseBlanks cs) = collapseBlanks cs ∧
    ofText (collapseBlanks cs) = ofText cs ∧
    isType (ofText (collapseBlanks cs)) = isType (ofText cs) := by
  refine ⟨fun word tokens n enough => Scan.rounds_eq enough tokens, scanText_eq cs,
    fun token => proper_of_mem_ofText, flatMap_text_ofText cs, fun left token right => exists_place,
    fun left first middle second right => exists_places, collapseBlanks_collapseBlanks cs,
    ofText_collapseBlanks cs, ?_⟩
  rw [ofText_collapseBlanks]

/-- Stars in a row and at both ends of a word, and a blank that is not ASCII. -/
theorem tokens_of_pointers_are_stars_and_runs :
    2 ≤ 3 ∧ Scan.rounds 3 ⟨[], ['*', 'b']⟩ = .ok ⟨[.star, .word ['b']], []⟩ ∧
      ofText " ab**c\u3000 *d ".toList =
        [.word ['a', 'b'], .star, .star, .word ['c'], .star, .word ['d']] ∧
      ∃ before between after,
        " ab**c\u3000 *d ".toList = before ++ (['a', 'b'] ++ (between ++ (['c'] ++ after))) ∧
          ofText before = [] ∧ ofText between = [.star, .star] ∧
            ofText after = [.star, .word ['d']] ∧
              ∃ c ∈ between, isBlank c = true ∨ c = '*' := by
  obtain ⟨ends, -, -, -, -, places, -⟩ := tokens_are_stars_and_runs " ab**c\u3000 *d ".toList
  have tokens : ofText " ab**c\u3000 *d ".toList =
      [] ++ .word ['a', 'b'] :: ([.star, .star] ++ .word ['c'] :: [.star, .word ['d']]) := rfl
  exact ⟨by decide, ends ['*', 'b'] [] 3 (by decide), tokens, places _ _ _ _ _ tokens⟩

end Token
end Prototype
end BindingGen
