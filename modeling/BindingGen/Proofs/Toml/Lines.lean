import BindingGen.Proofs.Toml.Quoted
import BindingGen.Toml.Reader

/-!
# Documents written in whole lines

A document is read as it was written when each of its lines is: a header, a key with its value, or
nothing.  What a line says does not depend on the lines after it, so texts of whole lines can be
put one after another.
-/

namespace BindingGen
namespace Toml

/-- Whole lines that say some statements, whatever text follows them.  Each line takes one step of
a reader, and at least one character. -/
def Spells (cs : List Char) (statements : List Statement) : Prop :=
  ∃ lines ≤ cs.length, ∀ fuel rest,
    readStatements (fuel + lines) (cs ++ rest) =
      (readStatements fuel rest).map (statements ++ ·)

theorem spells_nil : Spells [] [] :=
  ⟨0, Nat.le_refl 0, fun fuel rest => by simp⟩

theorem Spells.append {first second : List Char} {statements more : List Statement}
    (spells : Spells first statements) (others : Spells second more) :
    Spells (first ++ second) (statements ++ more) := by
  obtain ⟨lines, few, reads⟩ := spells
  obtain ⟨moreLines, moreFew, readsMore⟩ := others
  refine ⟨moreLines + lines, by rw [List.length_append]; omega, fun fuel rest => ?_⟩
  rw [← Nat.add_assoc, List.append_assoc, reads, readsMore, Option.map_map]
  simp [Function.comp_def]

@[simp]
theorem readStatements_nil (fuel : Nat) : readStatements fuel [] = some [] := by
  cases fuel <;> rfl

/-- A document of whole lines has the statements of its lines. -/
theorem Spells.readStatements_eq {cs : List Char} {statements : List Statement}
    (spells : Spells cs statements) : readStatements cs.length cs = some statements := by
  obtain ⟨lines, few, reads⟩ := spells
  have read := reads (cs.length - lines) []
  rw [Nat.sub_add_cancel few, List.append_nil, readStatements_nil] at read
  simpa using read

/-- A document of whole lines, without a byte order mark, has the tables of its statements. -/
theorem Spells.parse_eq {text : String} {statements : List Statement}
    (spells : Spells text.toList statements) (noMark : text.toList.head? ≠ some '\uFEFF') :
    parse text = entriesOf statements := by
  have read := spells.readStatements_eq
  unfold parse
  split
  · simp_all
  · simp only [read, Option.bind_some]

theorem spells_blank : Spells ['\n'] [] :=
  ⟨1, Nat.le_refl 1, fun fuel rest => by simp [readStatements, skipSpaces, isSpace]⟩

theorem Spells.intercalate_blank {α : Type} {text : α → List Char}
    {statements : α → List Statement} (each : ∀ x, Spells (text x) (statements x))
    (items : List α) :
    Spells (['\n'].intercalate (items.map text)) (items.flatMap statements) := by
  induction items with
  | nil => exact spells_nil
  | cons x rest ih =>
      cases rest with
      | nil => simpa using each x
      | cons y rest =>
          simp only [List.map_cons, List.intercalate_cons_cons] at ih ⊢
          simpa using ((each x).append spells_blank).append ih

/-- Characters with a meaning of their own around keys. -/
def keyMarks : List Char :=
  [' ', '\t', '#', '\n', '\r', '"', '\'', '.', '[', ']', '=']

theorem not_mem_keyMarks_of_bare {c : Char} (bare : isBareChar c = true) : c ∉ keyMarks := by
  intro member
  have noneBare : ∀ d ∈ keyMarks, isBareChar d = false := by decide
  rw [noneBare c member] at bare
  cases bare

theorem spells_statement {c : Char} {cs : List Char} {statement : Statement}
    (begins : isBareChar c = true ∨ c = '[')
    (read : ∀ rest, readStatement (c :: cs ++ rest) = some (statement, rest)) :
    Spells (c :: cs) [statement] := by
  refine ⟨1, Nat.succ_le_succ (Nat.zero_le _), fun fuel rest => ?_⟩
  have apart : c ∉ [' ', '\t', '#', '\n', '\r'] := by
    rcases begins with bare | rfl
    · exact fun member => not_mem_keyMarks_of_bare bare (List.mem_append_left _ member)
    · decide
  simp only [List.mem_cons, List.not_mem_nil, or_false, not_or] at apart
  obtain ⟨notSpace, notTab, notComment, notFeed, notReturn⟩ := apart
  have start : skipSpaces (c :: cs ++ rest) = c :: cs ++ rest := by
    simp [skipSpaces, isSpace, notSpace, notTab]
  rw [readStatements, start]
  split <;> simp_all

/-! ## Keys -/

/-- A part of a key that is written without quotes. -/
structure IsBareName (name : String) : Prop where
  filled : name.toList ≠ []
  bare : ∀ c ∈ name.toList, isBareChar c = true

instance (name : String) : Decidable (IsBareName name) :=
  decidable_of_iff ((!name.toList.isEmpty && name.toList.all isBareChar) = true) <| by
    rw [Bool.and_eq_true, List.all_eq_true, Bool.not_eq_true', List.isEmpty_eq_false_iff]
    exact ⟨fun ⟨filled, bare⟩ => ⟨filled, bare⟩, fun isName => ⟨isName.filled, isName.bare⟩⟩

/-- What ends a key: neither a character of it nor, after spaces, another part. -/
structure EndsKey (rest : List Char) : Prop where
  notBare : ∀ c ∈ rest.head?, isBareChar c = false
  noPart : ∀ c ∈ (skipSpaces rest).head?, c ≠ '.'

theorem IsBareName.exists_cons {name : String} (isName : IsBareName name) :
    ∃ c cs, name.toList = c :: cs ∧ isBareChar c = true := by
  obtain ⟨c, cs, shape⟩ := List.exists_cons_of_ne_nil isName.filled
  exact ⟨c, cs, shape, isName.bare c (shape ▸ List.mem_cons_self)⟩

theorem readPart_append {name : String} (isName : IsBareName name) {rest : List Char}
    (stops : ∀ c ∈ rest.head?, isBareChar c = false) :
    readPart (name.toList ++ rest) = some (name, rest) := by
  have taken : (name.toList ++ rest).takeWhile isBareChar = name.toList := by
    rw [List.takeWhile_append_of_pos isName.bare]
    cases rest <;> simp_all
  have left : (name.toList ++ rest).dropWhile isBareChar = rest := by
    rw [List.dropWhile_append_of_pos isName.bare]
    cases rest <;> simp_all
  obtain ⟨c, cs, shape, bareStart⟩ := isName.exists_cons
  have apart := not_mem_keyMarks_of_bare bareStart
  rw [readPart.eq_def]
  split
  · simp_all [keyMarks]
  · simp_all [keyMarks]
  · simp [taken, left, isName.filled]

theorem skipSpaces_name_append {name : String} (isName : IsBareName name) (rest : List Char) :
    skipSpaces (name.toList ++ rest) = name.toList ++ rest := by
  obtain ⟨c, cs, shape, bareStart⟩ := isName.exists_cons
  have apart := not_mem_keyMarks_of_bare bareStart
  simp_all [skipSpaces, isSpace, keyMarks]

/-- Names with dots between them. -/
def keyText (path : List String) : List Char :=
  ['.'].intercalate (path.map String.toList)

theorem readKey_keyText {path : List String} (bare : ∀ name ∈ path, IsBareName name)
    (filled : path ≠ []) {limit : Nat} (short : path.length ≤ limit) {rest : List Char}
    (ends : EndsKey rest) :
    readKey limit (keyText path ++ rest) = some (path, skipSpaces rest) := by
  induction path generalizing limit with
  | nil => exact absurd rfl filled
  | cons name path ih =>
      have isName := bare name List.mem_cons_self
      obtain ⟨limit, rfl⟩ : ∃ less, limit = less + 1 :=
        Nat.exists_eq_succ_of_ne_zero (by simp at short; omega)
      cases path with
      | nil =>
          have text : keyText [name] = name.toList := by simp [keyText]
          rw [text, readKey, skipSpaces_name_append isName, readPart_append isName ends.notBare]
          have noPart := ends.noPart
          simp only
          split
          · simp_all
          · rfl
      | cons next path =>
          have text : keyText (name :: next :: path) ++ rest =
              name.toList ++ '.' :: (keyText (next :: path) ++ rest) := by
            simp [keyText, List.intercalate_cons_cons]
          have others := ih (fun part member => bare part (List.mem_cons_of_mem name member))
            (List.cons_ne_nil next path) (Nat.le_of_succ_le_succ short)
          rw [text, readKey, skipSpaces_name_append isName, readPart_append isName (by simp; decide)]
          simp [skipSpaces, isSpace, others]

/-! ## Values -/

/-- A text that is read as a value at the end of its line. -/
structure Writes (text : List Char) (value : Value) : Prop where
  notSpace : ∀ c ∈ text.head?, isSpace c = false
  read : ∀ rest, readValue nestingLimit (text ++ '\n' :: rest) = some (value, '\n' :: rest)

theorem exists_write_cons (cs : List Char) :
    ∃ quote more, Quoted.write cs = quote :: more ∧ (quote = '"' ∨ quote = '\'') := by
  unfold Quoted.write
  simp only []
  split_ifs <;> simp

theorem writes_string (text : String) : Writes (Quoted.write text.toList) (.string text) := by
  obtain ⟨quote, more, shape, isQuote⟩ := exists_write_cons text.toList
  constructor
  · rw [shape]
    rcases isQuote with rfl | rfl <;> simp [isSpace]
  · intro rest
    have notDouble : ('\n' :: rest).head? ≠ some '"' := by simp
    have notSingle : ('\n' :: rest).head? ≠ some '\'' := by simp
    have read := Quoted.read?_write text.toList notDouble notSingle
    rw [shape, List.cons_append] at read ⊢
    rcases isQuote with rfl | rfl <;> simp [readValue, read]

theorem writes_boolean (b : Bool) :
    Writes (if b then "true" else "false").toList (.boolean b) := by
  cases b with
  | false => exact ⟨by simp [isSpace], fun rest => rfl⟩
  | true => exact ⟨by simp [isSpace], fun rest => rfl⟩

/-! ## Lines -/

@[simp]
theorem lineEnd?_break (rest : List Char) : lineEnd? ('\n' :: rest) = some rest := by
  simp [lineEnd?, skipSpaces, isSpace, lineBreak?]

variable {path : List String}

theorem exists_keyText_cons (bare : ∀ name ∈ path, IsBareName name) (filled : path ≠ []) :
    ∃ c cs, keyText path = c :: cs ∧ isBareChar c = true := by
  obtain ⟨name, others, rfl⟩ := List.exists_cons_of_ne_nil filled
  obtain ⟨c, cs, shape, bareStart⟩ := (bare name List.mem_cons_self).exists_cons
  obtain ⟨more, text⟩ : ∃ more, keyText (name :: others) = name.toList ++ more := by
    cases others <;> simp [keyText, List.intercalate_cons_cons]
  exact ⟨c, cs ++ more, by rw [text, shape, List.cons_append], bareStart⟩

theorem readPair_keyText (bare : ∀ name ∈ path, IsBareName name) (filled : path ≠ [])
    (short : path.length ≤ keyLimit) {text : List Char} {value : Value}
    (writes : Writes text value) (rest : List Char) :
    readPair (readValue nestingLimit) (keyText path ++ ' ' :: '=' :: ' ' :: (text ++ '\n' :: rest)) =
      some ((path, value), '\n' :: rest) := by
  have ends : EndsKey (' ' :: '=' :: ' ' :: (text ++ '\n' :: rest)) :=
    ⟨by simp; decide, by simp [skipSpaces, isSpace]⟩
  have afterKey : skipSpaces (' ' :: '=' :: ' ' :: (text ++ '\n' :: rest)) =
      '=' :: ' ' :: (text ++ '\n' :: rest) := by
    simp [skipSpaces, isSpace]
  have afterSign : skipSpaces (' ' :: (text ++ '\n' :: rest)) = text ++ '\n' :: rest := by
    have notSpace := writes.notSpace
    cases text <;> simp_all [skipSpaces, isSpace]
  rw [readPair, readKey_keyText bare filled short ends, afterKey]
  simp only [afterSign, writes.read, Option.map_some]

theorem spells_assign (bare : ∀ name ∈ path, IsBareName name) (filled : path ≠ [])
    (short : path.length ≤ keyLimit) {text : List Char} {value : Value}
    (writes : Writes text value) :
    Spells (keyText path ++ [' ', '=', ' '] ++ text ++ ['\n']) [.assign path value] := by
  obtain ⟨c, cs, shape, bareStart⟩ := exists_keyText_cons bare filled
  have notBracket : c ≠ '[' := by
    rintro rfl
    exact not_mem_keyMarks_of_bare bareStart (by decide)
  have read (rest : List Char) : readStatement
      (keyText path ++ [' ', '=', ' '] ++ text ++ ['\n'] ++ rest) =
        some (.assign path value, rest) := by
    have pair := readPair_keyText bare filled short writes rest
    simp only [List.append_assoc, List.cons_append, List.nil_append] at pair ⊢
    rw [shape, List.cons_append] at pair ⊢
    rw [readStatement]
    · simp [pair]
    · simp [notBracket]
    · simp [notBracket]
  rw [shape] at read ⊢
  exact spells_statement (.inl bareStart) read

theorem readKey_bracket (bare : ∀ name ∈ path, IsBareName name) (filled : path ≠ [])
    (short : path.length ≤ keyLimit) (rest : List Char) :
    readKey keyLimit (keyText path ++ ']' :: rest) = some (path, ']' :: rest) := by
  have ends : EndsKey (']' :: rest) := ⟨by simp; decide, by simp [skipSpaces, isSpace]⟩
  rw [readKey_keyText bare filled short ends]
  simp [skipSpaces, isSpace]

theorem spells_openTable (bare : ∀ name ∈ path, IsBareName name) (filled : path ≠ [])
    (short : path.length ≤ keyLimit) :
    Spells ('[' :: (keyText path ++ [']', '\n'])) [.openTable path] := by
  refine spells_statement (.inr rfl) fun rest => ?_
  obtain ⟨c, cs, shape, bareStart⟩ := exists_keyText_cons bare filled
  have notBracket : c ≠ '[' := by
    rintro rfl
    exact not_mem_keyMarks_of_bare bareStart (by decide)
  have key := readKey_bracket bare filled short ('\n' :: rest)
  simp only [List.append_assoc, List.cons_append, List.nil_append]
  rw [shape, List.cons_append] at key ⊢
  rw [readStatement]
  · simp [key]
  · simp [notBracket]

theorem spells_openElement (bare : ∀ name ∈ path, IsBareName name) (filled : path ≠ [])
    (short : path.length ≤ keyLimit) :
    Spells ('[' :: '[' :: (keyText path ++ [']', ']', '\n'])) [.openElement path] := by
  refine spells_statement (.inr rfl) fun rest => ?_
  have key := readKey_bracket bare filled short (']' :: '\n' :: rest)
  simp [readStatement, key]

end Toml
end BindingGen
