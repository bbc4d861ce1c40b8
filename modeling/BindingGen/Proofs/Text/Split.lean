import BindingGen.Text.Blank

/-!
# Cutting a text at separators

A text is cut at every character of a class.  The pieces hold no separator, and cutting two texts
that are joined by a separator gives the pieces of the first followed by those of the second.
-/

namespace BindingGen
namespace Text

theorem splitWhere_ne_nil (p : Char → Bool) (cs : List Char) : splitWhere p cs ≠ [] := by
  cases cs with
  | nil => simp [splitWhere]
  | cons c cs =>
      rw [splitWhere]
      split
      · simp
      · split <;> simp

@[simp]
theorem splitWhere_cons_of_separator {p : Char → Bool} {c : Char} (separates : p c = true)
    (cs : List Char) : splitWhere p (c :: cs) = [] :: splitWhere p cs := by
  rw [splitWhere, if_pos separates]

theorem splitWhere_cons_of_not_separator {p : Char → Bool} {c : Char} (belongs : p c = false)
    {cs piece : List Char} {pieces : List (List Char)}
    (cut : splitWhere p cs = piece :: pieces) :
    splitWhere p (c :: cs) = (c :: piece) :: pieces := by
  rw [splitWhere, if_neg (by simp [belongs]), cut]

/-- A text without separators is its own only piece. -/
theorem splitWhere_eq_singleton {p : Char → Bool} {cs : List Char}
    (whole : ∀ c ∈ cs, p c = false) : splitWhere p cs = [cs] := by
  induction cs with
  | nil => rfl
  | cons c cs ih =>
      have rest := ih fun d member => whole d (List.mem_cons_of_mem c member)
      exact splitWhere_cons_of_not_separator (whole c List.mem_cons_self) rest

@[simp]
theorem splitWhere_append_separator {p : Char → Bool} {separator : Char}
    (separates : p separator = true) (first second : List Char) :
    splitWhere p (first ++ separator :: second) = splitWhere p first ++ splitWhere p second := by
  induction first with
  | nil => exact splitWhere_cons_of_separator separates second
  | cons c first ih =>
      cases belongs : p c with
      | true =>
          rw [List.cons_append, splitWhere_cons_of_separator belongs,
            splitWhere_cons_of_separator belongs, ih, List.cons_append]
      | false =>
          obtain ⟨piece, pieces, cut⟩ := List.exists_cons_of_ne_nil (splitWhere_ne_nil p first)
          rw [cut, List.cons_append] at ih
          rw [List.cons_append, splitWhere_cons_of_not_separator belongs cut,
            splitWhere_cons_of_not_separator belongs ih, List.cons_append]

/-- A text is its first piece, or that piece, a separator and a text of which the other pieces
are. -/
theorem eq_of_splitWhere_eq_cons {p : Char → Bool} {cs piece : List Char}
    {pieces : List (List Char)} (cut : splitWhere p cs = piece :: pieces) :
    cs = piece ∧ pieces = [] ∨
      ∃ separator rest, p separator = true ∧ cs = piece ++ separator :: rest ∧
        splitWhere p rest = pieces := by
  induction cs generalizing piece with
  | nil =>
      obtain ⟨rfl, rfl⟩ : [] = piece ∧ [] = pieces := by simpa [splitWhere] using cut
      exact .inl ⟨rfl, rfl⟩
  | cons c cs ih =>
      cases belongs : p c with
      | true =>
          rw [splitWhere_cons_of_separator belongs] at cut
          obtain ⟨rfl, rest⟩ := List.cons.inj cut
          exact .inr ⟨c, cs, belongs, rfl, rest⟩
      | false =>
          obtain ⟨first, others, next⟩ := List.exists_cons_of_ne_nil (splitWhere_ne_nil p cs)
          rw [splitWhere_cons_of_not_separator belongs next] at cut
          obtain ⟨rfl, rfl⟩ := List.cons.inj cut
          rcases ih next with ⟨rfl, rfl⟩ | ⟨separator, rest, separates, rfl, further⟩
          · exact .inl ⟨rfl, rfl⟩
          · exact .inr ⟨separator, rest, separates, rfl, further⟩

/-- The pieces with the separator between them are the text that was cut. -/
@[simp]
theorem intercalate_splitWhere (separator : Char) (cs : List Char) :
    [separator].intercalate (splitWhere (· == separator) cs) = cs := by
  induction cs with
  | nil => rfl
  | cons c cs ih =>
      obtain ⟨piece, pieces, cut⟩ :=
        List.exists_cons_of_ne_nil (splitWhere_ne_nil (· == separator) cs)
      rw [cut] at ih
      by_cases same : c = separator
      · rw [splitWhere, if_pos (by simpa using same), cut, List.intercalate_cons_cons, ih, same]
        rfl
      · rw [splitWhere, if_neg (by simpa using same), cut]
        exact List.intercalate_cons_cons_left.trans (congrArg (c :: ·) ih)

/-- Pieces without the separator are found again in the text that they are joined to. -/
theorem splitWhere_intercalate {separator : Char} {pieces : List (List Char)}
    (filled : pieces ≠ []) (whole : ∀ piece ∈ pieces, separator ∉ piece) :
    splitWhere (· == separator) ([separator].intercalate pieces) = pieces := by
  have alone : ∀ piece ∈ pieces, splitWhere (· == separator) piece = [piece] := by
    intro piece member
    apply splitWhere_eq_singleton
    intro c inPiece
    simpa using ne_of_mem_of_not_mem inPiece (whole piece member)
  induction pieces with
  | nil => exact absurd rfl filled
  | cons piece rest ih =>
      cases rest with
      | nil => rw [List.intercalate_singleton, alone piece List.mem_cons_self]
      | cons next others =>
          have further := ih (List.cons_ne_nil next others)
            (fun other member => whole other (List.mem_cons_of_mem piece member))
            (fun other member => alone other (List.mem_cons_of_mem piece member))
          rw [List.intercalate_cons_cons, List.append_assoc, List.singleton_append,
            splitWhere_append_separator (by simp), alone piece List.mem_cons_self, further]
          rfl

/-- Behind the last separator a text can be extended without another cut. -/
theorem exists_splitWhere_append {p : Char → Bool} (cs : List Char) {after : List Char}
    (belongs : ∀ c ∈ after, p c = false) :
    ∃ pieces last, splitWhere p cs = pieces ++ [last] ∧
      splitWhere p (cs ++ after) = pieces ++ [last ++ after] := by
  induction cs with
  | nil => exact ⟨[], [], rfl, splitWhere_eq_singleton belongs⟩
  | cons c cs ih =>
      obtain ⟨pieces, last, cut, longer⟩ := ih
      cases separates : p c with
      | true =>
          refine ⟨[] :: pieces, last, ?_, ?_⟩
          · rw [splitWhere_cons_of_separator separates, cut, List.cons_append]
          · rw [List.cons_append, splitWhere_cons_of_separator separates, longer, List.cons_append]
      | false =>
          cases pieces with
          | nil =>
              exact ⟨[], c :: last, splitWhere_cons_of_not_separator separates cut,
                splitWhere_cons_of_not_separator separates longer⟩
          | cons piece pieces =>
              exact ⟨(c :: piece) :: pieces, last, splitWhere_cons_of_not_separator separates cut,
                splitWhere_cons_of_not_separator separates longer⟩

/-- The pieces hold only characters of the text, and none that separates. -/
theorem mem_of_mem_splitWhere {p : Char → Bool} {cs piece : List Char} {c : Char}
    (pieceMem : piece ∈ splitWhere p cs) (charMem : c ∈ piece) : c ∈ cs ∧ p c = false := by
  induction cs generalizing piece with
  | nil =>
      simp only [splitWhere, List.mem_singleton] at pieceMem
      simp [pieceMem] at charMem
  | cons d cs ih =>
      cases belongs : p d with
      | true =>
          rw [splitWhere_cons_of_separator belongs] at pieceMem
          rcases List.mem_cons.mp pieceMem with rfl | later
          · simp at charMem
          · exact (ih later charMem).imp (List.mem_cons_of_mem d) id
      | false =>
          obtain ⟨first, pieces, cut⟩ := List.exists_cons_of_ne_nil (splitWhere_ne_nil p cs)
          rw [splitWhere_cons_of_not_separator belongs cut] at pieceMem
          rw [cut] at ih
          rcases List.mem_cons.mp pieceMem with rfl | later
          · rcases List.mem_cons.mp charMem with rfl | further
            · exact ⟨List.mem_cons_self, belongs⟩
            · exact (ih List.mem_cons_self further).imp (List.mem_cons_of_mem d) id
          · exact (ih (List.mem_cons_of_mem first later) charMem).imp (List.mem_cons_of_mem d) id

/-- Every character of a text separates or stands in a piece. -/
theorem separates_or_mem_splitWhere {p : Char → Bool} {cs : List Char} {c : Char}
    (member : c ∈ cs) : p c = true ∨ ∃ piece ∈ splitWhere p cs, c ∈ piece := by
  induction cs with
  | nil => simp at member
  | cons d cs ih =>
      cases belongs : p d with
      | true =>
          rw [splitWhere_cons_of_separator belongs]
          rcases List.mem_cons.mp member with rfl | later
          · exact .inl belongs
          · obtain separates | ⟨piece, pieceMem, charMem⟩ := ih later
            · exact .inl separates
            · exact .inr ⟨piece, List.mem_cons_of_mem [] pieceMem, charMem⟩
      | false =>
          obtain ⟨first, pieces, cut⟩ := List.exists_cons_of_ne_nil (splitWhere_ne_nil p cs)
          rw [splitWhere_cons_of_not_separator belongs cut]
          rw [cut] at ih
          rcases List.mem_cons.mp member with rfl | later
          · exact .inr ⟨c :: first, List.mem_cons_self, List.mem_cons_self⟩
          · obtain separates | ⟨piece, pieceMem, charMem⟩ := ih later
            · exact .inl separates
            · rcases List.mem_cons.mp pieceMem with rfl | further
              · exact .inr ⟨d :: piece, List.mem_cons_self, List.mem_cons_of_mem d charMem⟩
              · exact .inr ⟨piece, List.mem_cons_of_mem _ further, charMem⟩

end Text
end BindingGen
