import BindingGen.Proofs.Text.Characters

/-!
# Ordinary string literals

The generated source holds names between quotation marks.  Such a literal stands for the
characters between its marks only if none of them is a mark, starts an escape or ends a line of
source text; all other characters can be pasted into it.
-/

namespace BindingGen

/-- The characters that an ordinary string literal cannot hold as they are: the quotation mark, the
backslash and those that end a line of source text. -/
def literalStops : List Char :=
  ['"', '\\', '\n', '\r', '\u0085', '\u2028', '\u2029']

/-- A text that can be pasted into an ordinary string literal. -/
def IsPlain (cs : List Char) : Prop :=
  ∀ c ∈ literalStops, c ∉ cs

@[simp]
theorem isPlain_cons {c : Char} {cs : List Char} :
    IsPlain (c :: cs) ↔ literalStops.contains c = false ∧ IsPlain cs := by
  simp only [IsPlain, List.mem_cons, not_or, List.contains_eq_mem, decide_eq_false_iff_not]
  constructor
  · intro plain
    exact ⟨fun member => (plain c member).1 rfl, fun stop member => (plain stop member).2⟩
  · rintro ⟨notStop, plain⟩ stop member
    exact ⟨fun equal => notStop (equal ▸ member), plain stop member⟩

@[simp]
theorem isPlain_append {first second : List Char} :
    IsPlain (first ++ second) ↔ IsPlain first ∧ IsPlain second := by
  simp only [IsPlain, List.mem_append, not_or]
  constructor
  · intro plain
    exact ⟨fun stop member => (plain stop member).1, fun stop member => (plain stop member).2⟩
  · rintro ⟨first, second⟩ stop member
    exact ⟨first stop member, second stop member⟩

theorem isPlain_of_isIdentifier {cs : List Char} (identifier : Text.isIdentifier cs = true) :
    IsPlain cs := by
  intro stop member inText
  have word := Text.isWordChar_of_mem_identifier identifier inText
  have noWords : ∀ c ∈ literalStops, Text.isWordChar c = false := by decide
  rw [noWords stop member] at word
  cases word

theorem IsPlain.isLineBreak_eq_false {cs : List Char} (plain : IsPlain cs) {c : Char}
    (member : c ∈ cs) : Text.isLineBreak c = false := by
  rw [Text.isLineBreak_eq_false_iff]
  constructor
  · rintro rfl
    exact plain '\r' (by decide) member
  · rintro rfl
    exact plain '\n' (by decide) member

/-- The characters up to the next quotation mark, and what follows it; escapes are not read. -/
def readToQuote : List Char → Option (List Char × List Char)
  | [] => none
  | c :: cs =>
    if c = '"' then some ([], cs)
    else if literalStops.contains c then none
    else (readToQuote cs).map fun (text, rest) => (c :: text, rest)

/-- The text of the literal at the start of some characters, and what follows the literal. -/
def readLiteral : List Char → Option (List Char × List Char)
  | '"' :: cs => readToQuote cs
  | _ => none

@[simp]
theorem readToQuote_eq_some_iff {cs text rest : List Char} :
    readToQuote cs = some (text, rest) ↔ IsPlain text ∧ cs = text ++ '"' :: rest := by
  induction cs generalizing text with
  | nil => simp [readToQuote]
  | cons c cs ih =>
      rw [readToQuote]
      cases text with
      | nil =>
          have plain : IsPlain [] := fun _ _ => List.not_mem_nil
          by_cases isQuote : c = '"'
          · simp [isQuote, plain]
          · cases literalStops.contains c <;> simp [isQuote]
      | cons d text =>
          rw [isPlain_cons, List.cons_append, List.cons.injEq, and_assoc]
          by_cases isQuote : c = '"'
          · have quoteStops : literalStops.contains '"' = true := by decide
            simp only [isQuote, if_true, Option.some.injEq, Prod.mk.injEq, reduceCtorEq, false_and,
              false_iff]
            rintro ⟨notStop, -, rfl, -⟩
            rw [quoteStops] at notStop
            cases notStop
          · cases stops : literalStops.contains c with
            | true =>
                simp only [isQuote, if_false, if_true, reduceCtorEq, false_iff]
                rintro ⟨notStop, -, rfl, -⟩
                rw [stops] at notStop
                cases notStop
            | false =>
                simp only [isQuote, if_false, Bool.false_eq_true, Option.map_eq_some_iff]
                constructor
                · rintro ⟨⟨others, after⟩, found, same⟩
                  simp only [Prod.mk.injEq, List.cons.injEq] at same
                  obtain ⟨⟨rfl, rfl⟩, rfl⟩ := same
                  obtain ⟨plain, shape⟩ := ih.mp found
                  exact ⟨stops, plain, rfl, shape⟩
                · rintro ⟨-, plain, rfl, shape⟩
                  exact ⟨(text, rest), ih.mpr ⟨plain, shape⟩, rfl⟩

@[simp]
theorem readLiteral_quote_iff {cs text rest : List Char} :
    readLiteral ('"' :: cs) = some (text, rest) ↔ IsPlain text ∧ cs = text ++ '"' :: rest :=
  readToQuote_eq_some_iff

end BindingGen
