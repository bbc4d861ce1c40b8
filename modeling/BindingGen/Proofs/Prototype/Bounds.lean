import BindingGen.Proofs.Prototype.Pieces
import BindingGen.Proofs.Prototype.Scanning

/-!
# Reading stays in bounds

The offsets at which a prototype is cut are found by adding one to the offset of a character and by
taking one from the length of the text.  That is right for characters of one byte only, and only
where the opening parenthesis stands in front of the closing one; both have been checked by the
time of the cuts.  A reader that stops at the first cut out of bounds therefore reads every line
like the one that never looks.
-/

namespace BindingGen
namespace Prototype

open Text

/-! ## The cuts -/

/-- The four cuts of a text: in front of its opening parenthesis, between its parentheses, and of
what stands in front of them the name and the return type. -/
def cuts (text : List Char) (opening : Nat) : List Cut :=
  let head := trimEnd (slice text 0 opening)
  [⟨text, 0, opening⟩, ⟨text, opening + 1, byteLength text - 1⟩,
    ⟨head, wordStart head, byteLength head⟩, ⟨head, 0, wordStart head⟩]

/-- Where all characters take one byte, the last word starts behind the character before it. -/
theorem inBounds_of_headInner {head : List Char} (inner : ∀ c ∈ head, isInnerChar c = true) :
    Cut.InBounds ⟨head, wordStart head, byteLength head⟩ ∧
      Cut.InBounds ⟨head, 0, wordStart head⟩ := by
  obtain ⟨front, word, rfl, inWord, stop⟩ := exists_append_word head
  have frontInner := fun c member => inner c (List.mem_append_left word member)
  rw [wordStart_append frontInner inWord stop]
  exact ⟨Cut.inBounds_back front word, Cut.inBounds_front front word⟩

theorem Enclosed.inBounds {text : List Char} {opening : Nat} (enclosed : Enclosed text opening) :
    ∀ cut ∈ cuts text opening, cut.InBounds := by
  obtain ⟨allowed, opens, closes, openedOnce, closedOnce⟩ := enclosed
  obtain ⟨head, list, rfl, inner⟩ := exists_parenthesized_of_pair (by simpa using allowed)
    (mem_of_firstOffset?_eq_some opens) closes openedOnce closedOnce
  have headInner := fun c member => inner c (List.mem_append_left list member)
  obtain rfl : byteLength head = opening := by
    rw [firstOffset?_parenthesized headInner] at opens
    exact Option.some.inj opens
  have between : Cut.InBounds ⟨head ++ '(' :: (list ++ [')']), byteLength head + 1,
      byteLength (head ++ '(' :: (list ++ [')'])) - 1⟩ := by
    rw [byteLength_parenthesized, Nat.add_sub_cancel, ← byteLength_append_opening]
    simpa using Cut.inBounds_append (head ++ ['(']) list [')']
  have trimmedInner : ∀ c ∈ trimEnd head, isInnerChar c = true :=
    fun c member => headInner c (mem_of_mem_trimEnd member)
  obtain ⟨name, returnType⟩ := inBounds_of_headInner trimmedInner
  simp only [cuts, slice_zero_append, List.mem_cons, List.not_mem_nil, or_false]
  rintro cut (rfl | rfl | rfl | rfl)
  · exact Cut.inBounds_front head _
  · exact between
  · exact name
  · exact returnType

/-! ## A reader that looks at its cuts -/

namespace Guarded

/-- Stops at the first cut out of bounds. -/
def reader : Reader (ExceptT Fault (Except Cut)) where
  take cut := ExceptT.lift cut.take
  tokens text := ExceptT.lift (Token.scanText text)

/-- Reads a prototype from a line, or stops at a cut out of bounds. -/
def parse (line : String) : Except Cut (Except Fault Prototype) :=
  (reader.line line).run

/-- A result that no cut has kept from being reached. -/
def reached {α : Type} (result : Except Fault α) : ExceptT Fault (Except Cut) α :=
  ExceptT.mk (.ok result)

section Reached

variable {α β : Type}

@[simp]
theorem pure_eq_reached (value : α) :
    (pure value : ExceptT Fault (Except Cut) α) = reached (.ok value) :=
  rfl

@[simp]
theorem throw_eq_reached (fault : Fault) :
    (throw fault : ExceptT Fault (Except Cut) α) = reached (.error fault) :=
  rfl

@[simp]
theorem reached_ok_bind (value : α) (next : α → ExceptT Fault (Except Cut) β) :
    (reached (.ok value) >>= next) = next value :=
  rfl

/-- Reached steps are taken one after another like those of the reader that never looks. -/
@[simp]
theorem reached_bind_reached (step : Except Fault α) (next : α → Except Fault β) :
    (reached step >>= fun value => reached (next value)) = reached (step >>= next) := by
  cases step <;> rfl

theorem reached_ite (p : Prop) [Decidable p] (first second : Except Fault α) :
    (if p then reached first else reached second) = reached (if p then first else second) :=
  (apply_ite reached p first second).symm

end Reached

@[simp]
theorem take_of_inBounds {cut : Cut} (inBounds : cut.InBounds) :
    reader.take cut = reached (.ok cut.piece) := by
  simp only [reader, Cut.take_of_inBounds inBounds]
  rfl

@[simp]
theorem tokens_eq (text : List Char) : reader.tokens text = reached (.ok (Token.ofText text)) := by
  simp only [reader, Token.scanText_eq]
  rfl

/-! ### The same reading -/

theorem splitHead_eq {head : List Char}
    (name : Cut.InBounds ⟨head, wordStart head, byteLength head⟩)
    (returnType : Cut.InBounds ⟨head, 0, wordStart head⟩) :
    reader.splitHead head = reached (splitHead head) := by
  unfold Prototype.splitHead Reader.splitHead
  simp [name, returnType, reached_ite]

@[simp]
theorem parameter_eq (position : Nat) (text : List Char) :
    reader.parameter position text = reached (parseParameter position text) := by
  unfold parseParameter Reader.parameter
  simp [reached_ite]

@[simp]
theorem parametersFrom_eq (position : Nat) (pieces : List (List Char)) :
    reader.parametersFrom position pieces = reached (parseParametersFrom position pieces) := by
  induction pieces generalizing position with
  | nil => rfl
  | cons piece pieces ih =>
      rw [Reader.parametersFrom, parseParametersFrom_cons, parameter_eq, ih]
      simp

@[simp]
theorem parameters_eq (list : List Char) :
    reader.parameters list = reached (parseParameters list) := by
  unfold parseParameters Reader.parameters
  simp only [parametersFrom_eq, pure_eq_reached, reached_ite]
  rfl

/-- Behind all checks both readers read what stands in front of the parentheses and inside. -/
theorem trimmed_eq_of_enclosed {text : List Char} {opening : Nat}
    (enclosed : Enclosed text opening) : reader.trimmed text = reached (parseTrimmed text) := by
  have inBounds := enclosed.inBounds
  simp only [cuts, List.forall_mem_cons] at inBounds
  obtain ⟨front, between, name, returnType, -⟩ := inBounds
  rw [enclosed.trimmed_eq, enclosed.parseTrimmed_eq, take_of_inBounds front,
    take_of_inBounds between, reached_ok_bind]
  simp only [Cut.piece, splitHead_eq name returnType, parameters_eq]
  simp

@[simp]
theorem trimmed_eq (text : List Char) : reader.trimmed text = reached (parseTrimmed text) := by
  rcases enclosed_or_refused text with ⟨opening, enclosed⟩ | ⟨fault, -, refused⟩
  · exact trimmed_eq_of_enclosed enclosed
  · -- Nothing is cut where a check fails.
    rw [refused, parseTrimmed, refused]
    rfl

end Guarded

/-- Whenever a text is cut, the offsets are in order, not behind its end and between characters,
for the front of the parenthesis, the list of parameters, the name and the return type alike.  A
reader that stops where a cut is not so, here or within the words of a type, therefore never stops,
and what it reads is the prototype or the fault of the line. -/
theorem cuts_are_in_bounds (line : String) :
    (∀ opening, Enclosed (trim line.toList) opening →
      ∀ cut ∈ cuts (trim line.toList) opening,
        cut.start ≤ cut.stop ∧ cut.stop ≤ byteLength cut.text ∧
          IsBoundary cut.text cut.start ∧ IsBoundary cut.text cut.stop) ∧
    (∀ cut : Cut, (∃ piece, cut.take = .ok piece) ↔
      cut.start ≤ cut.stop ∧ cut.stop ≤ byteLength cut.text ∧
        IsBoundary cut.text cut.start ∧ IsBoundary cut.text cut.stop) ∧
    Guarded.parse line = .ok (parse line) := by
  simp only [← Cut.inBounds_iff]
  refine ⟨fun opening enclosed => enclosed.inBounds, fun cut => Cut.exists_take_eq_ok_iff, ?_⟩
  exact congrArg ExceptT.run (Guarded.trimmed_eq (trim line.toList))

/-- A line between blanks of three bytes each. -/
theorem cuts_between_wide_blanks_are_in_bounds :
    Enclosed (trim "\u3000int *f(a)\u2003".toList) 6 ∧
      (∀ cut ∈ cuts (trim "\u3000int *f(a)\u2003".toList) 6,
        cut.start ≤ cut.stop ∧ cut.stop ≤ byteLength cut.text ∧
          IsBoundary cut.text cut.start ∧ IsBoundary cut.text cut.stop) ∧
      Guarded.parse "\u3000int *f(a)\u2003" = .ok (.ok ⟨"f", ["a"], "int *"⟩) := by
  have enclosed : Enclosed (trim "\u3000int *f(a)\u2003".toList) 6 :=
    ⟨by decide, by decide, by decide, by decide, by decide⟩
  obtain ⟨inBounds, -, same⟩ := cuts_are_in_bounds "\u3000int *f(a)\u2003"
  exact ⟨enclosed, inBounds 6 enclosed, same⟩

/-- Without the check of the characters the name could start between two bytes. -/
example : ¬ Cut.InBounds ⟨['é'], 0, wordStart ['é']⟩ := by decide

end Prototype
end BindingGen
