import BindingGen.Proofs.Prototype.Checks
import BindingGen.Proofs.Prototype.Tokens
import BindingGen.Proofs.Text.Offset

/-!
# The pieces of a prototype

Reading cuts a prototype at its parentheses and in front of the last word before them.  The
characters that a prototype may hold take one byte each, so the offsets of these cuts fall where
the pieces meet, and reading can be described by the pieces alone.
-/

namespace BindingGen
namespace Prototype

open Text

/-- The characters that a prototype may hold on either side of its opening parenthesis. -/
def isInnerChar (c : Char) : Bool :=
  isWordChar c || isAsciiBlank c || c == '*' || c == ','

theorem isAllowedChar_eq (c : Char) :
    isAllowedChar c = (isInnerChar c || c == '(' || c == ')') := by
  simp only [isAllowedChar, isInnerChar]
  grind

theorem isInnerChar_ne {c : Char} (inner : isInnerChar c = true) : c ≠ '(' ∧ c ≠ ')' := by
  constructor <;> rintro rfl <;> cases inner

theorem isAsciiBlank_of_isInnerChar {c : Char} (inner : isInnerChar c = true)
    (blank : isBlank c = true) : isAsciiBlank c = true := by
  simp only [isInnerChar, Bool.or_eq_true, beq_iff_eq] at inner
  rcases inner with ((word | asciiBlank) | rfl) | rfl
  · rw [isBlank_eq_false_of_isWordChar word] at blank
    cases blank
  · exact asciiBlank
  · cases blank
  · cases blank

theorem utf8Size_of_isInnerChar {c : Char} (inner : isInnerChar c = true) : c.utf8Size = 1 := by
  have ascii : c.toNat ≤ 127 := by
    simp only [isInnerChar, isAsciiBlank, Bool.or_eq_true, beq_iff_eq] at inner
    rcases inner with ((word | blank) | rfl) | rfl
    · have codes := toNat_of_isWordChar word
      omega
    · rcases blank with (((rfl | rfl) | rfl) | rfl) | rfl <;> decide
    · decide
    · decide
  exact Char.utf8Size_eq_one_iff.mpr (by simpa [UInt32.le_iff_toNat_le] using ascii)

/-! ## The parentheses -/

theorem firstOffset?_parenthesized {head : List Char} (inner : ∀ c ∈ head, isInnerChar c = true)
    (tail : List Char) : firstOffset? (· == '(') (head ++ '(' :: tail) = some (byteLength head) :=
  firstOffset?_append_cons (fun c member => by simpa using (isInnerChar_ne (inner c member)).1) rfl
    tail

theorem byteLength_append_opening (head : List Char) :
    byteLength (head ++ ['(']) = byteLength head + 1 :=
  byteLength_append head ['(']

theorem byteLength_parenthesized (head list : List Char) :
    byteLength (head ++ '(' :: (list ++ [')'])) =
      byteLength (head ++ ['(']) + byteLength list + 1 := by
  simp only [byteLength_append, byteLength]
  have sizes : '('.utf8Size = 1 ∧ ')'.utf8Size = 1 := ⟨rfl, rfl⟩
  omega

/-- Texts of this form pass all checks, and their pieces are what the parentheses bound. -/
theorem enclosed_parenthesized {head list : List Char}
    (inner : ∀ c ∈ head ++ list, isInnerChar c = true) :
    Enclosed (head ++ '(' :: (list ++ [')'])) (byteLength head) where
  allowed := by
    simp only [isAllowedChar_eq, List.find?_eq_none, List.mem_append, List.mem_cons,
      List.not_mem_nil, or_false]
    rintro c (member | rfl | member | rfl)
    · simp [inner c (List.mem_append_left list member)]
    · simp
    · simp [inner c (List.mem_append_right head member)]
    · simp
  opens := firstOffset?_parenthesized (fun c member => inner c (List.mem_append_left list member)) _
  closes := by rw [← List.cons_append, ← List.append_assoc, List.getLast?_concat]
  openedOnce := by
    have absent : '(' ∉ head ++ list := fun member => (isInnerChar_ne (inner _ member)).1 rfl
    simp only [List.mem_append, not_or] at absent
    simp [List.count_eq_zero.mpr absent.1, List.count_eq_zero.mpr absent.2]
  closedOnce := by
    have absent : ')' ∉ head ++ list := fun member => (isInnerChar_ne (inner _ member)).2 rfl
    simp only [List.mem_append, not_or] at absent
    simp [List.count_eq_zero.mpr absent.1, List.count_eq_zero.mpr absent.2]

theorem slice_parenthesized (head list : List Char) :
    slice (head ++ '(' :: (list ++ [')'])) (byteLength head + 1)
      (byteLength (head ++ '(' :: (list ++ [')'])) - 1) = list := by
  rw [byteLength_parenthesized, Nat.add_sub_cancel, ← byteLength_append_opening]
  simpa using slice_append (head ++ ['(']) list [')']

/-- Reading a text in one pair of parentheses reads what is in front of them and what is inside. -/
theorem parseTrimmed_parenthesized {head list : List Char}
    (inner : ∀ c ∈ head ++ list, isInnerChar c = true) :
    parseTrimmed (head ++ '(' :: (list ++ [')'])) = do
      let (returnType, name) ← splitHead (trimEnd head)
      let parameters ← parseParameters list
      return ⟨name, parameters, returnType⟩ := by
  rw [(enclosed_parenthesized inner).parseTrimmed_eq, slice_zero_append, slice_parenthesized]

theorem parseTrimmed_parenthesized_eq_ok_iff {head list : List Char}
    (inner : ∀ c ∈ head ++ list, isInnerChar c = true) {p : Prototype} :
    parseTrimmed (head ++ '(' :: (list ++ [')'])) = .ok p ↔
      splitHead (trimEnd head) = .ok (p.returnType, p.name) ∧
        parseParameters list = .ok p.parameters := by
  rw [parseTrimmed_parenthesized inner]
  obtain ⟨name, parameters, returnType⟩ := p
  cases splitHead (trimEnd head) with
  | error fault => simp
  | ok pieces =>
      simp only [ok_bind, bind_eq_ok_iff, pure_eq_ok, Except.ok.injEq, mk.injEq, Prod.ext_iff]
      grind

/-- Allowed characters with one pair of parentheses, one of them at the end, are of this form. -/
theorem exists_parenthesized_of_pair {text : List Char}
    (allowed : ∀ c ∈ text, isAllowedChar c = true) (isOpened : '(' ∈ text)
    (closing : text.getLast? = some ')') (openings : text.count '(' = 1)
    (closings : text.count ')' = 1) :
    ∃ head list, text = head ++ '(' :: (list ++ [')']) ∧
      ∀ c ∈ head ++ list, isInnerChar c = true := by
  obtain ⟨head, tail, rfl, -⟩ := List.eq_append_cons_of_mem isOpened
  obtain ⟨list, rfl⟩ : ∃ list, tail = list ++ [')'] := by
    rcases List.eq_nil_or_concat tail with rfl | ⟨list, last, rfl⟩
    · simp at closing
    · rw [List.concat_eq_append] at closing ⊢
      rw [← List.cons_append, ← List.append_assoc, List.getLast?_concat] at closing
      exact ⟨list, by rw [Option.some.inj closing]⟩
  refine ⟨head, list, rfl, fun c member => ?_⟩
  simp only [List.count_append, List.count_cons, List.count_nil] at openings closings
  have notOpening : (head ++ list).count '(' = 0 := by
    rw [List.count_append]
    simp at openings
    omega
  have notClosing : (head ++ list).count ')' = 0 := by
    rw [List.count_append]
    simp at closings
    omega
  have isAllowed := allowed c (by grind)
  rw [isAllowedChar_eq] at isAllowed
  have neither : c ≠ '(' ∧ c ≠ ')' :=
    ⟨ne_of_mem_of_not_mem member (List.count_eq_zero.mp notOpening),
      ne_of_mem_of_not_mem member (List.count_eq_zero.mp notClosing)⟩
  simpa [neither] using isAllowed

/-- A text that can be read is of this form. -/
theorem exists_parenthesized {text : List Char} {p : Prototype}
    (parsed : parseTrimmed text = .ok p) :
    ∃ head list, text = head ++ '(' :: (list ++ [')']) ∧
      ∀ c ∈ head ++ list, isInnerChar c = true := by
  obtain ⟨opening, enclosed, -, -⟩ := exists_enclosed_of_parseTrimmed parsed
  exact exists_parenthesized_of_pair (by simpa using enclosed.allowed)
    (mem_of_firstOffset?_eq_some enclosed.opens) enclosed.closes enclosed.openedOnce
    enclosed.closedOnce

/-! ## The name -/

/-- Every text ends in a word, which may be empty. -/
theorem exists_append_word (cs : List Char) :
    ∃ front word, cs = front ++ word ∧ (∀ c ∈ word, isWordChar c = true) ∧
      ∀ c ∈ front.getLast?, isWordChar c = false := by
  refine ⟨(cs.reverse.dropWhile isWordChar).reverse, (cs.reverse.takeWhile isWordChar).reverse,
    ?_, ?_, ?_⟩
  · rw [← List.reverse_append, List.takeWhile_append_dropWhile, List.reverse_reverse]
  · intro c member
    exact List.all_eq_true.mp List.all_takeWhile c (List.mem_reverse.mp member)
  · intro c isLast
    have stopped := List.head?_dropWhile_not isWordChar cs.reverse
    rw [List.getLast?_reverse, Option.mem_def] at isLast
    rw [isLast] at stopped
    exact stopped

theorem wordStart_append {front word : List Char} (inner : ∀ c ∈ front, isInnerChar c = true)
    (inWord : ∀ c ∈ word, isWordChar c = true) (stop : ∀ c ∈ front.getLast?, isWordChar c = false) :
    wordStart (front ++ word) = byteLength front := by
  have skipped : ∀ c ∈ word, (!isWordChar c) = false := by simpa using inWord
  unfold wordStart
  rcases List.eq_nil_or_concat front with rfl | ⟨front, last, rfl⟩
  · rw [List.nil_append, lastOffset?_eq_none_iff.mpr skipped]
    rfl
  · rw [List.concat_eq_append] at inner stop ⊢
    have found : (!isWordChar last) = true := by simpa using stop last
    have oneByte := utf8Size_of_isInnerChar (inner last (by simp))
    rw [List.append_assoc, List.singleton_append, lastOffset?_append_cons skipped found,
      byteLength_append]
    simp [byteLength, oneByte]

/-- Reading cuts off the last word and looks at what stands before it. -/
theorem splitHead_append {front word : List Char} (inner : ∀ c ∈ front, isInnerChar c = true)
    (inWord : ∀ c ∈ word, isWordChar c = true) (stop : ∀ c ∈ front.getLast?, isWordChar c = false) :
    splitHead (front ++ word) =
      if word.isEmpty then .error .missingName
      else if !isIdentifier word then .error (.invalidName (String.ofList word))
      else if (trim front).isEmpty then .error .missingReturnType
      else if !Token.isType (Token.ofText (trim front)) then
        .error (.invalidReturnType (String.ofList (trim front)))
      else .ok (String.ofList (collapseBlanks (trim front)), String.ofList word) := by
  unfold splitHead Reader.splitHead
  simp only [wordStart_append inner inWord stop, Reader.direct_take, Reader.direct_tokens,
    Cut.piece, slice_append_end, slice_zero_append, ok_bind, pure_eq_ok, throw_eq_error]

/-- What stands in front of the name has to be a type. -/
theorem splitHead_append_eq_ok_iff {front word : List Char}
    (inner : ∀ c ∈ front, isInnerChar c = true) (inWord : ∀ c ∈ word, isWordChar c = true)
    (stop : ∀ c ∈ front.getLast?, isWordChar c = false) {returnType name : String} :
    splitHead (front ++ word) = .ok (returnType, name) ↔
      isIdentifier word = true ∧ Token.isType (Token.ofText front) = true ∧
        returnType = String.ofList (collapseBlanks front) ∧ name = String.ofList word := by
  have nameless : isIdentifier [] = false := rfl
  have typeless : Token.isType [] = false := rfl
  rw [← Token.ofText_trim, ← collapseBlanks_trim, splitHead_append inner inWord stop]
  cases word with
  | nil => simp [nameless]
  | cons c word =>
      cases identifier : isIdentifier (c :: word) with
      | false => simp
      | true =>
          cases trimmed : trim front with
          | nil => simp [typeless]
          | cons d ds =>
              cases isType : Token.isType (Token.ofText (d :: ds)) <;> simp [eq_comm]

/-! ## The parameters -/

@[simp]
theorem parseParameter_trim_eq_ok_iff {cs : List Char} {position : Nat} {parameter : String} :
    parseParameter position (trim cs) = .ok parameter ↔
      trim cs ≠ [] ∧ trim cs ≠ ['v', 'o', 'i', 'd'] ∧ Token.isType (Token.ofText cs) = true ∧
        Token.endsInIdentifier (Token.ofText cs) = true ∧
          parameter = String.ofList (collapseBlanks cs) := by
  unfold parseParameter Reader.parameter
  simp only [Reader.direct_tokens, ok_bind, Token.ofText_trim, collapseBlanks_trim, pure_eq_ok,
    throw_eq_error]
  by_cases filled : trim cs = []
  · simp [filled]
  · by_cases isVoid : trim cs = ['v', 'o', 'i', 'd']
    · simp [isVoid]
    · rw [eq_comm (a := parameter)]
      cases isType : Token.isType (Token.ofText cs) <;>
        cases ends : Token.endsInIdentifier (Token.ofText cs) <;> simp [filled, isVoid]

theorem parseParametersFrom_congr {pieces others : List (List Char)}
    (same : pieces.map trim = others.map trim) (position : Nat) :
    parseParametersFrom position pieces = parseParametersFrom position others := by
  induction pieces generalizing others position with
  | nil =>
      obtain rfl : others = [] := by simpa using same.symm
      rfl
  | cons piece pieces ih =>
      cases others with
      | nil => cases same
      | cons other others =>
          obtain ⟨here, further⟩ := List.cons.inj same
          rw [parseParametersFrom_cons, parseParametersFrom_cons, here, ih further]

theorem parseParameters_of_nothing {list : List Char}
    (nothing : trim list = [] ∨ trim list = ['v', 'o', 'i', 'd']) :
    parseParameters list = .ok [] := by
  unfold parseParameters Reader.parameters
  rcases nothing with isEmpty | isVoid
  · simp [isEmpty]
  · simp [isVoid]

/-- A list that is neither blank nor the word `void` is read piece by piece. -/
theorem parseParameters_eq {list : List Char} (filled : trim list ≠ [])
    (notVoid : trim list ≠ ['v', 'o', 'i', 'd']) :
    parseParameters list = parseParametersFrom 1 (splitWhere (· == ',') list) := by
  have noComma : ∀ c, isBlank c = true → (c == ',') = false := by
    intro c blank
    rw [beq_eq_false_iff_ne]
    rintro rfl
    cases blank
  rw [← parseParametersFrom_congr (map_trim_splitWhere_trim noComma list)]
  simp [parseParameters, Reader.parameters, parseParametersFrom, filled, notVoid]

end Prototype
end BindingGen
