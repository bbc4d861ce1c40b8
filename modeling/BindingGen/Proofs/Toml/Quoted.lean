import BindingGen.Toml.Quoted
import Mathlib.Tactic.SplitIfs

/-!
# Quoted text is read back

Whatever characters a text holds, the form that it is written in is read as that text, and reading
stops where the writing stopped.  Between three quotes this rests on how quotes of the text itself
are spaced: a reader that has found one quote looks only at the next ones, and written text never
puts three unescaped quotes in a row before its closing quotes.
-/

namespace BindingGen
namespace Toml
namespace Quoted

/-- The quotes on one side of a text. -/
def marks (quote : Char) (lines : Bool) : List Char :=
  if lines then [quote, quote, quote] else [quote]

/-- The characters that stand for themselves between single quotes, and between double ones unless
they begin an escape. -/
def StandsAlone (lines : Bool) (c : Char) : Prop :=
  isTextChar c = true ∨ (lines = true ∧ c = '\n')

theorem standsAlone_of_not_isControl {lines : Bool} {c : Char} (notControl : isControl c = false)
    (unbroken : lines = true ∨ c ≠ '\n') : StandsAlone lines c := by
  by_cases isBreak : c = '\n'
  · exact .inr ⟨unbroken.resolve_right (not_not_intro isBreak), isBreak⟩
  · left
    simp only [isControl, Bool.or_eq_false_iff, Bool.and_eq_false_iff, decide_eq_false_iff_not,
      bne_eq_false_iff_eq, isBreak, beq_eq_false_iff_ne, or_false] at notControl
    obtain ⟨high | rfl, notDelete⟩ := notControl
    · have shown : 0x20 ≤ c.toNat := by omega
      simp [isTextChar, shown, notDelete]
    · rfl

/-! ## Single quotes -/

theorem readSingle_alone {lines : Bool} {c : Char} (alone : StandsAlone lines c)
    (notQuote : c ≠ '\'') (cs : List Char) :
    readSingle lines (c :: cs) = cons c (readSingle lines cs) := by
  rw [readSingle.eq_def]
  rcases alone with isText | ⟨rfl, rfl⟩ <;> simp_all

/-- A quote that two others do not follow belongs to the text. -/
theorem readSingle_quote {cs : List Char} (apart : ∀ rest, cs ≠ '\'' :: '\'' :: rest) :
    readSingle true ('\'' :: cs) = cons '\'' (readSingle true cs) := by
  rw [readSingle] <;> simp_all

/-- Up to two quotes directly before the closing ones belong to the text. -/
theorem readSingle_quotes_marks {cs rest : List Char}
    (few : cs ∈ [[], ['\''], ['\'', '\'']]) (apart : rest.head? ≠ some '\'') :
    readSingle true (cs ++ marks '\'' true ++ rest) = some (cs, rest) := by
  simp only [List.mem_cons, List.not_mem_nil, or_false] at few
  rcases few with rfl | rfl | rfl <;> cases rest <;> simp_all [marks, readSingle]

theorem readSingle_line {cs rest : List Char} (alone : ∀ c ∈ cs, StandsAlone false c)
    (noQuote : '\'' ∉ cs) :
    readSingle false (cs ++ '\'' :: rest) = some (cs, rest) := by
  induction cs with
  | nil => simp [readSingle]
  | cons c cs ih =>
      rw [List.cons_append, readSingle_alone (alone c List.mem_cons_self)
        fun isQuote => noQuote (isQuote ▸ List.mem_cons_self)]
      rw [ih (fun d member => alone d (List.mem_cons_of_mem c member))
        fun member => noQuote (List.mem_cons_of_mem c member)]
      rfl

/-- In text without three quotes in a row, the text ends within one quote after a quote, or two
quotes do not follow. -/
theorem ends_or_apart_of_hasRun {quote : Char} {before : Nat} {cs : List Char}
    (spaced : hasRun quote before (quote :: cs) = false) (few : before ≤ 2) :
    cs = [] ∨ cs = [quote] ∨ ∀ more rest, cs ++ more ≠ quote :: quote :: rest := by
  match cs with
  | [] => exact .inl rfl
  | [d] =>
      by_cases same : d = quote
      · exact .inr (.inl (by rw [same]))
      · exact .inr (.inr (by simp [same]))
  | d :: e :: cs =>
      refine .inr (.inr fun more rest equal => ?_)
      simp only [List.cons_append, List.cons.injEq] at equal
      obtain ⟨rfl, rfl, -⟩ := equal
      simp only [hasRun, if_true, Bool.or_eq_false_iff, beq_eq_false_iff_ne] at spaced
      omega

/-- Text without three single quotes in a row is read as it is written.  The induction carries how
many quotes came just before, so that it is known of every quote whether it is the third one. -/
theorem readSingle_lines {cs rest : List Char} (alone : ∀ c ∈ cs, StandsAlone true c)
    {before : Nat} (spaced : hasRun '\'' before cs = false) (few : before ≤ 2)
    (apart : rest.head? ≠ some '\'') :
    readSingle true (cs ++ marks '\'' true ++ rest) = some (cs, rest) := by
  induction cs generalizing before with
  | nil => exact readSingle_quotes_marks (by decide) apart
  | cons c cs ih =>
      have others : ∀ d ∈ cs, StandsAlone true d :=
        fun d member => alone d (List.mem_cons_of_mem c member)
      by_cases isQuote : c = '\''
      · subst isQuote
        rcases ends_or_apart_of_hasRun spaced few with rfl | rfl | notTwo
        · exact readSingle_quotes_marks (by decide) apart
        · exact readSingle_quotes_marks (by decide) apart
        · simp only [hasRun, if_true, Bool.or_eq_false_iff, beq_eq_false_iff_ne] at spaced
          rw [List.append_assoc, List.cons_append, readSingle_quote (notTwo _),
            ← List.append_assoc, ih others spaced.2 (by omega)]
          rfl
      · rw [hasRun, if_neg isQuote] at spaced
        rw [List.append_assoc, List.cons_append,
          readSingle_alone (alone c List.mem_cons_self) isQuote, ← List.append_assoc,
          ih others spaced (by omega)]
        rfl

/-! ## Double quotes -/

theorem hexValue?_hexDigit {n : Nat} (small : n < 16) : hexValue? (hexDigit n) = some n := by
  revert n
  decide

@[simp]
theorem charOfCode?_toNat (c : Char) : charOfCode? c.toNat = some c := by
  have valid : c.toNat.isValidChar := c.valid
  rw [charOfCode?, if_pos valid, Char.ofNat_toNat]

theorem readDouble_alone {lines : Bool} {c : Char} (alone : StandsAlone lines c)
    (notQuote : c ≠ '"') (notEscape : c ≠ '\\') (cs : List Char) :
    readDouble lines .text (c :: cs) = cons c (readDouble lines .text cs) := by
  rw [readDouble.eq_def]
  rcases alone with isText | ⟨rfl, rfl⟩ <;> simp_all

theorem readDouble_short {lines : Bool} {c d : Char} (escaped : escapedChar? d = some c)
    (cs : List Char) :
    readDouble lines .text ('\\' :: d :: cs) = cons c (readDouble lines .text cs) := by
  simp [readDouble, escaped]

/-- Two hexadecimal digits after two zeros are read as the control character with that code. -/
theorem readDouble_code {lines : Bool} {c : Char} (control : isControl c = true)
    (cs : List Char) :
    readDouble lines .text ('\\' :: 'u' :: '0' :: '0' :: hexDigit (c.toNat / 16) ::
        hexDigit (c.toNat % 16) :: cs) = cons c (readDouble lines .text cs) := by
  have small : c.toNat < 128 := by
    simp only [isControl, Bool.or_eq_true, Bool.and_eq_true, decide_eq_true_eq,
      beq_iff_eq] at control
    omega
  have zero : hexValue? '0' = some 0 := by decide
  have first := hexValue?_hexDigit (n := c.toNat / 16) (by omega)
  have second := hexValue?_hexDigit (n := c.toNat % 16) (by omega)
  have code : 16 * (c.toNat / 16) + c.toNat % 16 = c.toNat := Nat.div_add_mod c.toNat 16
  simp [readDouble, escapedChar?, codeLength?, zero, first, second, code]

/-- An escape is a letter with a meaning of its own or the code of a control character. -/
theorem short_or_code_of_escape? {lines : Bool} {c : Char} {escape : List Char}
    (escaped : escape? lines c = some escape) :
    (∃ d, escape = ['\\', d] ∧ escapedChar? d = some c) ∨
      isControl c = true ∧ escape =
        ['\\', 'u', '0', '0', hexDigit (c.toNat / 16), hexDigit (c.toNat % 16)] := by
  unfold escape? at escaped
  split_ifs at escaped <;> cases escaped <;> simp_all [escapedChar?]

/-- A character without an escape stands for itself, though a quote may still end the text. -/
theorem standsAlone_of_escape?_eq_none {lines : Bool} {c : Char}
    (bare : escape? lines c = none) : c ≠ '\\' ∧ StandsAlone lines c := by
  unfold escape? at bare
  split_ifs at bare with _ _ _ _ _ isBreak inLines control
  · exact ⟨by simp_all, .inr ⟨inLines, isBreak⟩⟩
  · exact ⟨by simp_all, standsAlone_of_not_isControl (by simpa using control) (.inr isBreak)⟩

/-- The escape of a character is read as that character. -/
theorem readDouble_escape {lines : Bool} {c : Char} {escape : List Char}
    (escaped : escape? lines c = some escape) (cs : List Char) :
    readDouble lines .text (escape ++ cs) = cons c (readDouble lines .text cs) := by
  rcases short_or_code_of_escape? escaped with ⟨d, rfl, short⟩ | ⟨control, rfl⟩
  · exact readDouble_short short cs
  · exact readDouble_code control cs

theorem readDouble_quote {cs : List Char} (apart : ∀ rest, cs ≠ '"' :: '"' :: rest) :
    readDouble true .text ('"' :: cs) = cons '"' (readDouble true .text cs) := by
  rw [readDouble] <;> simp_all

theorem readDouble_marks (lines : Bool) {rest : List Char} (apart : rest.head? ≠ some '"') :
    readDouble lines .text (marks '"' lines ++ rest) = some ([], rest) := by
  cases lines with
  | false => simp [marks, readDouble]
  | true => cases rest <;> simp_all [marks, readDouble]

/-- Up to two quotes directly before the closing ones belong to the text. -/
theorem readDouble_quotes_marks {cs rest : List Char}
    (few : cs ∈ [['"'], ['"', '"']]) (apart : rest.head? ≠ some '"') :
    readDouble true .text (cs ++ marks '"' true ++ rest) = some (cs, rest) := by
  simp only [List.mem_cons, List.not_mem_nil, or_false] at few
  rcases few with rfl | rfl <;> cases rest <;> simp_all [marks, readDouble]

/-- Only a quote with fewer than two others before it is written as a bare quote. -/
theorem exists_writeDouble_cons (lines : Bool) (run : Nat) (c : Char) (cs : List Char)
    (escapes : c = '"' → lines = false ∨ 2 ≤ run) :
    ∃ d written, writeDouble lines run (c :: cs) = d :: written ∧ d ≠ '"' := by
  rw [writeDouble]
  cases escaped : escape? lines c with
  | some escape =>
      rcases short_or_code_of_escape? escaped with ⟨d, rfl, -⟩ | ⟨-, rfl⟩ <;>
        exact ⟨_, _, rfl, by decide⟩
  | none =>
      by_cases isQuote : c = '"'
      · have notBare : (lines && decide (run < 2)) = false := by
          rcases escapes isQuote with rfl | many
          · rfl
          · have notFew : ¬ run < 2 := by omega
            simp [notFew]
        simp only [isQuote, if_true, notBare, Bool.false_eq_true, if_false]
        exact ⟨_, _, rfl, by decide⟩
      · rw [if_neg isQuote]
        exact ⟨_, _, rfl, isQuote⟩

/-- After a bare quote, the text ends within one more bare quote, or two of them do not follow. -/
theorem ends_or_apart_of_writeDouble {run : Nat} (notFirst : 0 < run) (cs : List Char) :
    cs = [] ∨ (cs = ['"'] ∧ writeDouble true run cs = ['"']) ∨
      ∀ more rest, writeDouble true run cs ++ more ≠ '"' :: '"' :: rest := by
  match cs with
  | [] => exact .inl rfl
  | c :: cs =>
      right
      by_cases bare : c = '"' ∧ run < 2
      · obtain ⟨rfl, few⟩ := bare
        have written : writeDouble true run ('"' :: cs) = '"' :: writeDouble true (run + 1) cs := by
          have noEscape : escape? true '"' = none := by decide
          simp [writeDouble, noEscape, few]
        match cs with
        | [] => exact .inl ⟨rfl, written⟩
        | d :: cs =>
            obtain ⟨e, more, next, notQuote⟩ :=
              exists_writeDouble_cons true (run + 1) d cs fun _ => .inr (by omega)
            simp [written, next, notQuote]
      · obtain ⟨e, more, start, notQuote⟩ :=
          exists_writeDouble_cons true run c cs fun isQuote =>
            .inr (Nat.le_of_not_lt fun few => bare ⟨isQuote, few⟩)
        simp [start, notQuote]

theorem readDouble_writeDouble {lines : Bool} {cs rest : List Char} {run : Nat}
    (apart : rest.head? ≠ some '"') :
    readDouble lines .text (writeDouble lines run cs ++ marks '"' lines ++ rest) =
      some (cs, rest) := by
  induction cs generalizing run with
  | nil => exact readDouble_marks lines apart
  | cons c cs ih =>
      rw [writeDouble]
      cases escaped : escape? lines c with
      | some escape =>
          rw [List.append_assoc, List.append_assoc, readDouble_escape escaped,
            ← List.append_assoc, ih]
          rfl
      | none =>
          obtain ⟨notEscape, alone⟩ := standsAlone_of_escape?_eq_none escaped
          by_cases isQuote : c = '"'
          · subst isQuote
            by_cases bare : lines = true ∧ run < 2
            · obtain ⟨rfl, few⟩ := bare
              simp only [if_true, Bool.true_and, decide_eq_true few, List.cons_append]
              rcases ends_or_apart_of_writeDouble (Nat.succ_pos run) cs with
                rfl | ⟨rfl, written⟩ | notTwo
              · exact readDouble_quotes_marks List.mem_cons_self apart
              · rw [written]
                exact readDouble_quotes_marks (.tail _ List.mem_cons_self) apart
              · rw [List.append_assoc, readDouble_quote (notTwo _), ← List.append_assoc, ih]
                rfl
            · have notBare : (lines && decide (run < 2)) = false := by simpa using bare
              simp only [if_true, notBare, Bool.false_eq_true, if_false, List.cons_append]
              rw [readDouble_short (c := '"') (by decide), ih]
              rfl
          · simp only [if_neg isQuote, List.cons_append]
            rw [readDouble_alone alone isQuote notEscape, ih]
            rfl

/-! ## Opening quotes -/

/-- The line break after opening quotes is dropped again, and no other one is. -/
theorem dropBreak_openingBreak {cs body : List Char}
    (starts : '\n' ∉ cs → body.head? ≠ some '\n' ∧ body.head? ≠ some '\r') :
    dropBreak (openingBreak cs ++ body) = body := by
  by_cases broken : '\n' ∈ cs
  · simp [openingBreak, broken, dropBreak]
  · obtain ⟨notFeed, notReturn⟩ := starts broken
    have unbroken : openingBreak cs = [] := by simp [openingBreak, broken]
    rw [unbroken, List.nil_append]
    unfold dropBreak
    split <;> simp_all

theorem head?_writeDouble_append_marks {cs : List Char} (unbroken : '\n' ∉ cs) (rest : List Char) :
    (writeDouble true 0 cs ++ marks '"' true ++ rest).head? ≠ some '\n' ∧
      (writeDouble true 0 cs ++ marks '"' true ++ rest).head? ≠ some '\r' := by
  cases cs with
  | nil => simp [writeDouble, marks]
  | cons c cs =>
      rw [writeDouble]
      cases escaped : escape? true c with
      | some escape =>
          rcases short_or_code_of_escape? escaped with ⟨d, rfl, -⟩ | ⟨-, rfl⟩ <;> simp
      | none =>
          have notReturn : c ≠ '\r' := by
            rintro rfl
            cases escaped
          have notFeed : c ≠ '\n' := fun equal => unbroken (equal ▸ List.mem_cons_self)
          by_cases isQuote : c = '"'
          · simp [isQuote]
          · simp [isQuote, notReturn, notFeed]

theorem read?_double_line {cs rest : List Char} (apart : rest.head? ≠ some '"') :
    read? (['"'] ++ writeDouble false 0 cs ++ ['"'] ++ rest) = some (cs, rest) := by
  have oneQuote : ∀ more,
      '"' :: (writeDouble false 0 cs ++ marks '"' false ++ rest) ≠ '"' :: '"' :: '"' :: more := by
    intro more equal
    cases cs with
    | nil => cases rest <;> simp_all [writeDouble, marks]
    | cons c cs =>
        obtain ⟨d, written, start, notQuote⟩ :=
          exists_writeDouble_cons false 0 c cs fun _ => .inl rfl
        simp_all
  change read? ('"' :: (writeDouble false 0 cs ++ marks '"' false ++ rest)) = _
  rw [read?]
  · exact readDouble_writeDouble apart
  · exact oneQuote
  · simp

theorem read?_double_lines {cs rest : List Char} (apart : rest.head? ≠ some '"') :
    read? (['"', '"', '"'] ++ openingBreak cs ++ writeDouble true 0 cs ++ ['"', '"', '"'] ++ rest) =
      some (cs, rest) := by
  simp only [List.append_assoc]
  change readDouble true .text
    (dropBreak (openingBreak cs ++ (writeDouble true 0 cs ++ (marks '"' true ++ rest)))) = _
  rw [← List.append_assoc (writeDouble true 0 cs),
    dropBreak_openingBreak fun unbroken => head?_writeDouble_append_marks unbroken rest]
  exact readDouble_writeDouble apart

theorem read?_single_line {cs rest : List Char} (filled : cs ≠ [])
    (alone : ∀ c ∈ cs, StandsAlone false c) (noQuote : '\'' ∉ cs) :
    read? (['\''] ++ cs ++ ['\''] ++ rest) = some (cs, rest) := by
  obtain ⟨c, cs, rfl⟩ := List.exists_cons_of_ne_nil filled
  have notQuote : c ≠ '\'' := fun equal => noQuote (equal ▸ List.mem_cons_self)
  have flat : ['\''] ++ c :: cs ++ ['\''] ++ rest = '\'' :: (c :: cs ++ '\'' :: rest) := by simp
  rw [flat, read?]
  · exact readSingle_line alone noQuote
  · simp
  · simp [notQuote]

theorem read?_single_lines {cs rest : List Char} (notControl : ∀ c ∈ cs, isControl c = false)
    (spaced : hasRun '\'' 0 cs = false) (apart : rest.head? ≠ some '\'') :
    read? (['\'', '\'', '\''] ++ openingBreak cs ++ cs ++ ['\'', '\'', '\''] ++ rest) =
      some (cs, rest) := by
  simp only [List.append_assoc]
  change readSingle true (dropBreak (openingBreak cs ++ (cs ++ (marks '\'' true ++ rest)))) = _
  rw [dropBreak_openingBreak, ← List.append_assoc]
  · exact readSingle_lines (fun c member => standsAlone_of_not_isControl (notControl c member)
      (.inl rfl)) spaced (Nat.zero_le 2) apart
  · intro unbroken
    cases cs with
    | nil => simp [marks]
    | cons c cs =>
        have notReturn : c ≠ '\r' := by
          rintro rfl
          cases notControl '\r' List.mem_cons_self
        have notFeed : c ≠ '\n' := fun equal => unbroken (equal ▸ List.mem_cons_self)
        simp [notReturn, notFeed]

/-- The form that a text is written in is read as that text, up to where the form ends. -/
theorem read?_write (cs : List Char) {rest : List Char} (notDouble : rest.head? ≠ some '"')
    (notSingle : rest.head? ≠ some '\'') : read? (write cs ++ rest) = some (cs, rest) := by
  unfold write
  simp only []
  split_ifs with plain single double singles
  · exact read?_double_line notDouble
  · simp only [Bool.and_eq_true, Bool.not_eq_true', List.any_eq_false, List.contains_eq_mem,
      decide_eq_false_iff_not, Bool.not_eq_true] at single
    obtain ⟨⟨notControl, noQuote⟩, unbroken⟩ := single
    have filled : cs ≠ [] := by
      rintro rfl
      exact plain rfl
    refine read?_single_line filled (fun c member => ?_) noQuote
    exact standsAlone_of_not_isControl (notControl c member)
      (.inr fun equal => unbroken (equal ▸ member))
  · exact read?_double_lines notDouble
  · simp only [Bool.and_eq_true, Bool.not_eq_true', List.any_eq_false, Bool.not_eq_true] at singles
    exact read?_single_lines singles.1 singles.2 notSingle
  · exact read?_double_lines notDouble
  · exact read?_double_line notDouble

end Quoted
end Toml
end BindingGen
