import BindingGen.Proofs.Prototype.Checks
import BindingGen.Proofs.Text.Words
import BindingGen.Prototype.Listing

/-!
# Offences of a listing

A line of a listing declares a prototype, is blank, or offends: it holds no prototype, or it
declares a name again where that is refused.  All of this is said of the lines alone, by their
indices, and not of the entries that reading carries along.  A line offends in one way only.
-/

namespace BindingGen
namespace Prototype

open Text

/-- Whether a line holds anything but blanks. -/
def isFilled (line : List Char) : Bool :=
  line.any fun c => !isBlank c

/-- The line at an index is that of a prototype. -/
def Declares (lines : List (List Char)) (i : Nat) (p : Prototype) : Prop :=
  ∃ line, lines[i]? = some line ∧ parse (String.ofList line) = .ok p

/-- The first line that declares a name stands at an index. -/
def FirstDeclares (lines : List (List Char)) (i : Nat) (name : String) : Prop :=
  (∃ p, Declares lines i p ∧ p.name = name) ∧ ∀ j < i, ∀ p, Declares lines j p → p.name ≠ name

/-- What is wrong with the line at an index, whose number is one more. -/
inductive Offends (keepRepeated : Bool) (lines : List (List Char)) (i : Nat) :
    ListingFault → Prop where
  | malformed {line : List Char} {cause : Fault} :
    lines[i]? = some line → isFilled line = true → parse (String.ofList line) = .error cause →
      Offends keepRepeated lines i (.malformed (i + 1) (String.ofList (trim line)) cause)
  | repeated {p : Prototype} {first : Nat} :
    keepRepeated = false → Declares lines i p → FirstDeclares lines first p.name → first < i →
      Offends keepRepeated lines i (.repeated ⟨p.name, first + 1, i + 1⟩)

/-- The first offence of a listing. -/
def FirstOffends (keepRepeated : Bool) (lines : List (List Char)) (fault : ListingFault) : Prop :=
  ∃ i, Offends keepRepeated lines i fault ∧
    ∀ j < i, ∀ other, ¬ Offends keepRepeated lines j other

/-! ## Lines -/

@[simp]
theorem isFilled_eq_false_iff {line : List Char} : isFilled line = false ↔ trim line = [] := by
  rw [trim_eq_nil_iff]
  simp [isFilled]

@[simp]
theorem isFilled_iff {line : List Char} : isFilled line = true ↔ trim line ≠ [] := by
  rw [ne_eq, ← isFilled_eq_false_iff, Bool.not_eq_false]

@[simp]
theorem parse_ofList (line : List Char) :
    parse (String.ofList line) = parseTrimmed (trim line) := by
  rw [parse, Reader.line, String.toList_ofList]
  rfl

theorem splitHead_ne_empty (head : List Char) : splitHead head ≠ .error .empty := by
  unfold splitHead Reader.splitHead
  simp only [Reader.direct_take, Reader.direct_tokens, ok_bind, throw_eq_error, pure_eq_ok]
  grind

theorem parseParametersFrom_ne_empty (position : Nat) (pieces : List (List Char)) :
    parseParametersFrom position pieces ≠ .error .empty := by
  have parameter (position : Nat) (text : List Char) :
      parseParameter position text ≠ .error .empty := by
    unfold parseParameter Reader.parameter
    simp only [Reader.direct_tokens, ok_bind, throw_eq_error, pure_eq_ok]
    grind
  induction pieces generalizing position with
  | nil => nofun
  | cons piece pieces ih =>
      simp [parseParametersFrom_cons, parameter, ih]

@[simp]
theorem parseTrimmed_eq_empty_iff {text : List Char} :
    parseTrimmed text = .error .empty ↔ text = [] := by
  constructor
  · intro failed
    have parameters (list : List Char) : parseParameters list ≠ .error .empty := by
      unfold parseParameters Reader.parameters
      dsimp only
      split
      · nofun
      · exact parseParametersFrom_ne_empty 1 _
    rcases enclosed_or_refused text with ⟨opening, enclosed⟩ | ⟨fault, onlyEmpty, refused⟩
    · rw [enclosed.parseTrimmed_eq] at failed
      simp [splitHead_ne_empty, parameters] at failed
    · rw [parseTrimmed, refused] at failed
      exact onlyEmpty.mp (Except.error.inj failed)
  · rintro rfl
    rfl

theorem isFilled_of_parse {line : List Char} {p : Prototype}
    (parsed : parse (String.ofList line) = .ok p) : isFilled line = true := by
  rw [isFilled_iff, ne_eq, ← parseTrimmed_eq_empty_iff, ← parse_ofList, parsed]
  nofun

/-! ## Offences -/

section Offences

variable {keepRepeated : Bool} {lines : List (List Char)}

theorem Declares.parse_eq {i : Nat} {p : Prototype} (declares : Declares lines i p)
    {line : List Char} (isLine : lines[i]? = some line) : parse (String.ofList line) = .ok p := by
  obtain ⟨other, isOther, parsed⟩ := declares
  obtain rfl := Option.some.inj (isLine.symm.trans isOther)
  exact parsed

theorem Declares.unique {i : Nat} {p q : Prototype} (declares : Declares lines i p)
    (also : Declares lines i q) : p = q := by
  obtain ⟨line, isLine, parsed⟩ := declares
  exact Except.ok.inj (parsed.symm.trans (also.parse_eq isLine))

theorem FirstDeclares.unique {i j : Nat} {name : String} (first : FirstDeclares lines i name)
    (also : FirstDeclares lines j name) : i = j := by
  obtain ⟨⟨p, declares, isName⟩, noneBefore⟩ := first
  obtain ⟨⟨q, alsoDeclares, alsoName⟩, alsoNoneBefore⟩ := also
  rcases Nat.lt_trichotomy i j with before | same | after
  · exact absurd isName (alsoNoneBefore i before p declares)
  · exact same
  · exact absurd alsoName (noneBefore j after q alsoDeclares)

theorem Offends.unique {i : Nat} {fault other : ListingFault}
    (offends : Offends keepRepeated lines i fault) (also : Offends keepRepeated lines i other) :
    fault = other := by
  cases offends with
  | malformed isLine filled failed =>
      cases also with
      | malformed isOther alsoFilled alsoFailed =>
          obtain rfl := Option.some.inj (isLine.symm.trans isOther)
          rw [Except.error.inj (failed.symm.trans alsoFailed)]
      | repeated refused declares first earlier =>
          cases failed.symm.trans (declares.parse_eq isLine)
  | repeated refused declares first earlier =>
      cases also with
      | malformed isLine filled failed =>
          cases failed.symm.trans (declares.parse_eq isLine)
      | repeated refused alsoDeclares alsoFirst alsoEarlier =>
          obtain rfl := declares.unique alsoDeclares
          rw [first.unique alsoFirst]

theorem FirstOffends.unique {fault other : ListingFault}
    (offends : FirstOffends keepRepeated lines fault)
    (also : FirstOffends keepRepeated lines other) : fault = other := by
  obtain ⟨i, here, noneBefore⟩ := offends
  obtain ⟨j, there, alsoNoneBefore⟩ := also
  rcases Nat.lt_trichotomy i j with before | rfl | after
  · exact absurd here (alsoNoneBefore i before fault)
  · exact here.unique there
  · exact absurd there (noneBefore j after other)

/-- A line that offends where repeated names are kept offends in any case. -/
theorem Offends.of_keepRepeated {i : Nat} {fault : ListingFault}
    (offends : Offends true lines i fault) : Offends keepRepeated lines i fault := by
  cases offends with
  | malformed isLine filled failed => exact .malformed isLine filled failed
  | repeated refused => cases refused

theorem Offends.lt_length {i : Nat} {fault : ListingFault}
    (offends : Offends keepRepeated lines i fault) : i < lines.length := by
  have isLine : ∃ line, lines[i]? = some line := by
    cases offends with
    | malformed isLine filled failed => exact ⟨_, isLine⟩
    | repeated refused declares first earlier => exact declares.imp fun line => And.left
  obtain ⟨line, isLine⟩ := isLine
  exact (List.getElem?_eq_some_iff.mp isLine).1

end Offences

end Prototype
end BindingGen
