import BindingGen.Proofs.Text.Split

/-!
# Characters of identifiers and of collapsed texts

An identifier consists of word characters, and no character with a meaning of its own in paths,
lines or quoted texts is among those.  A text whose runs of blanks were collapsed holds no other
blank than the space, and so no line break either.
-/

namespace BindingGen
namespace Text

/-- What holds of the characters of a text is decided on the text, not on all characters. -/
instance decidableForallMem (p : Char → Prop) [DecidablePred p] (cs : List Char) :
    Decidable (∀ c ∈ cs, p c) :=
  List.decidableBAll p cs

/-- The characters that end a line of a generated file. -/
def isLineBreak (c : Char) : Bool :=
  c == '\r' || c == '\n'

@[simp]
theorem isLineBreak_eq_false_iff {c : Char} : isLineBreak c = false ↔ c ≠ '\r' ∧ c ≠ '\n' := by
  simp [isLineBreak]

@[grind →]
theorem isWordChar_of_mem_identifier {cs : List Char} (identifier : isIdentifier cs = true)
    {c : Char} (member : c ∈ cs) : isWordChar c = true := by
  cases cs with
  | nil => simp at member
  | cons first rest =>
      simp only [isIdentifier, Bool.and_eq_true, List.all_eq_true] at identifier
      rcases List.mem_cons.mp member with rfl | later
      · rcases Bool.or_eq_true_iff.mp identifier.1 with alpha | underscore
        · simp [isWordChar, Char.isAlphanum, alpha]
        · simp [isWordChar, underscore]
      · exact identifier.2 c later

@[grind →]
theorem isLineBreak_eq_false_of_isWordChar {c : Char} (word : isWordChar c = true) :
    isLineBreak c = false := by
  rw [isLineBreak_eq_false_iff]
  constructor <;> rintro rfl <;> simp [isWordChar] at word

theorem isLineBreak_eq_false_of_mem_identifier {cs : List Char}
    (identifier : isIdentifier cs = true) {c : Char} (member : c ∈ cs) :
    isLineBreak c = false :=
  isLineBreak_eq_false_of_isWordChar (isWordChar_of_mem_identifier identifier member)

/-! ## Collapsed texts -/

theorem isLineBreak_eq_false_of_isBlank_eq_false {c : Char} (filled : isBlank c = false) :
    isLineBreak c = false := by
  rw [isLineBreak_eq_false_iff]
  constructor <;> rintro rfl <;> simp [isBlank] at filled

theorem mem_or_mem_of_mem_intercalate {separator : List Char} {pieces : List (List Char)}
    {c : Char} (member : c ∈ separator.intercalate pieces) :
    c ∈ separator ∨ ∃ piece ∈ pieces, c ∈ piece := by
  induction pieces with
  | nil => simp at member
  | cons piece rest ih =>
      cases rest with
      | nil => exact .inr ⟨piece, List.mem_cons_self, by simpa using member⟩
      | cons next others =>
          rw [List.intercalate_cons_cons, List.mem_append, List.mem_append] at member
          rcases member with (inPiece | inSeparator) | later
          · exact .inr ⟨piece, List.mem_cons_self, inPiece⟩
          · exact .inl inSeparator
          · rcases ih later with inSeparator | ⟨other, otherMem, inOther⟩
            · exact .inl inSeparator
            · exact .inr ⟨other, List.mem_cons_of_mem piece otherMem, inOther⟩

theorem isLineBreak_eq_false_of_mem_collapseBlanks {cs : List Char} {c : Char}
    (member : c ∈ collapseBlanks cs) : isLineBreak c = false := by
  rcases mem_or_mem_of_mem_intercalate member with space | ⟨word, wordMem, inWord⟩
  · rw [List.mem_singleton.mp space]
    decide
  · have inPieces := (List.mem_filter.mp wordMem).1
    exact isLineBreak_eq_false_of_isBlank_eq_false (mem_of_mem_splitWhere inPieces inWord).2

end Text
end BindingGen
