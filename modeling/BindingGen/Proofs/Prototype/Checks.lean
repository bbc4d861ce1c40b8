import BindingGen.Proofs.Steps
import BindingGen.Prototype.Parse

/-!
# Checks before the cuts

The characters of a text and its parentheses are checked before the first cut is taken.  Where a
check fails every reader reports the same fault, however it takes its cuts; where none does it goes
on with the two pieces that the parentheses bound.
-/

namespace BindingGen
namespace Prototype

open Text

/-- What has been checked of a text when it is cut at the offset of its opening parenthesis. -/
structure Enclosed (text : List Char) (opening : Nat) : Prop where
  allowed : (text.find? fun c => !isAllowedChar c) = none
  opens : firstOffset? (· == '(') text = some opening
  closes : text.getLast? = some ')'
  openedOnce : text.count '(' = 1
  closedOnce : text.count ')' = 1

theorem Enclosed.ne_nil {text : List Char} {opening : Nat} (enclosed : Enclosed text opening) :
    text ≠ [] := by
  rintro rfl
  cases enclosed.closes

section Readers

variable {m : Type → Type} [Monad m] [MonadExceptOf Fault m]

/-- Behind all checks a reader takes the cuts and reads them. -/
theorem Enclosed.trimmed_eq {text : List Char} {opening : Nat} (enclosed : Enclosed text opening)
    (reader : Reader m) :
    reader.trimmed text = do
      let head ← reader.take ⟨text, 0, opening⟩
      let (returnType, name) ← reader.splitHead (trimEnd head)
      let list ← reader.take ⟨text, opening + 1, byteLength text - 1⟩
      let parameters ← reader.parameters list
      return ⟨name, parameters, returnType⟩ := by
  have filled : text.isEmpty = false := by simpa using enclosed.ne_nil
  obtain ⟨allowed, opens, closes, openedOnce, closedOnce⟩ := enclosed
  simp only [Reader.trimmed, filled, allowed, opens, closes, openedOnce, closedOnce,
    bne_self_eq_false, Bool.or_self, Bool.false_eq_true, if_false]

/-- A check that fails is reported by every reader alike, and only an empty text as empty. -/
theorem enclosed_or_refused (text : List Char) :
    (∃ opening, Enclosed text opening) ∨
      ∃ fault : Fault, (fault = .empty ↔ text = []) ∧
        ∀ {m : Type → Type} [Monad m] [MonadExceptOf Fault m] (reader : Reader m),
          reader.trimmed text = throw fault := by
  by_cases filled : text ≠ []
  case neg =>
    obtain rfl := Decidable.not_not.mp filled
    exact .inr ⟨.empty, by simp, fun reader => rfl⟩
  cases allowed : text.find? fun c => !isAllowedChar c with
  | some c =>
      exact .inr ⟨.unsupportedCharacter c, by simpa using filled, fun reader => by
        simp [Reader.trimmed, filled, allowed]⟩
  | none =>
  cases opens : firstOffset? (· == '(') text with
  | none =>
      exact .inr ⟨.missingOpenParenthesis, by simpa using filled, fun reader => by
        simp [Reader.trimmed, filled, allowed, opens]⟩
  | some opening =>
  by_cases closes : text.getLast? = some ')'
  case neg =>
    exact .inr ⟨.missingCloseParenthesis, by simpa using filled, fun reader => by
      simp [Reader.trimmed, filled, allowed, opens, closes]⟩
  by_cases once : text.count '(' = 1 ∧ text.count ')' = 1
  case neg =>
    have notOnce : (text.count '(' != 1 || text.count ')' != 1) = true := by grind
    exact .inr ⟨.nestedParentheses, by simpa using filled, fun reader => by
      simp [Reader.trimmed, filled, allowed, opens, closes, notOnce]⟩
  exact .inl ⟨opening, allowed, opens, closes, once.1, once.2⟩

end Readers

variable {text : List Char} {p : Prototype}

theorem Enclosed.parseTrimmed_eq {opening : Nat} (enclosed : Enclosed text opening) :
    parseTrimmed text = do
      let (returnType, name) ← splitHead (trimEnd (slice text 0 opening))
      let parameters ← parseParameters (slice text (opening + 1) (byteLength text - 1))
      return ⟨name, parameters, returnType⟩ := by
  unfold parseTrimmed
  rw [enclosed.trimmed_eq]
  rfl

/-- A text that was read has passed all checks, and its pieces were read. -/
theorem exists_enclosed_of_parseTrimmed (parsed : parseTrimmed text = .ok p) :
    ∃ opening, Enclosed text opening ∧
      splitHead (trimEnd (slice text 0 opening)) = .ok (p.returnType, p.name) ∧
      parseParameters (slice text (opening + 1) (byteLength text - 1)) = .ok p.parameters := by
  rcases enclosed_or_refused text with ⟨opening, enclosed⟩ | ⟨fault, -, refused⟩
  · rw [enclosed.parseTrimmed_eq, bind_eq_ok_iff] at parsed
    obtain ⟨⟨returnType, name⟩, isHead, parsed⟩ := parsed
    obtain ⟨parameters, isList, whole⟩ := bind_eq_ok_iff.mp parsed
    cases whole
    exact ⟨opening, enclosed, isHead, isList⟩
  · rw [parseTrimmed, refused] at parsed
    cases parsed

end Prototype
end BindingGen
