import BindingGen.Proofs.Prototype.Rows
import BindingGen.Proofs.Prototype.Spacing
import Mathlib.Logic.Relation

/-!
# The layout of a listing

How a listing is laid out decides nothing about what it declares.  Endings of lines and a byte order
mark are not read at all, blank lines only count, and spaces and tabs matter only as far as they
separate words.  Each edit of the text is an edit of its rows, and reading carries it from there.
-/

namespace BindingGen
namespace Prototype

open Text

/-! ## Blank lines -/

/-- The number of a line when another line has been put in with a number of its own. -/
def shiftedBy (inserted line : Nat) : Nat :=
  if inserted ≤ line then line + 1 else line

/-- A line of blanks is put in under a number: in front of another line or of the end, at the end
without a line feed of its own, or behind a last line that no line feed ends. -/
inductive BlankLineInserted : Nat → List Char → List Char → Prop where
  | inFront {before blank after : List Char} :
    (∀ c ∈ before.getLast?, c = '\n') → (∀ c ∈ blank, isBlank c = true) → '\n' ∉ blank →
      BlankLineInserted (before.count '\n' + 1) (before ++ after)
        (before ++ (blank ++ '\n' :: after))
  | atEnd {before blank : List Char} :
    (∀ c ∈ before.getLast?, c = '\n') → (∀ c ∈ blank, isBlank c = true) → '\n' ∉ blank →
      BlankLineInserted (before.count '\n' + 1) before (before ++ blank)
  | behind {before blank : List Char} :
    (∀ c ∈ blank, isBlank c = true) → '\n' ∉ blank →
      BlankLineInserted (before.count '\n' + 2) before (before ++ '\n' :: blank)

theorem isFilled_of_blank {line : List Char} (blank : ∀ c ∈ line, isBlank c = true) :
    isFilled line = false := by
  simpa [isFilled] using blank

namespace Listing

/-- A blank line among others moves those behind it by one. -/
theorem readLines_inserted (keepRepeated : Bool) (front behind : List (List Char))
    {line : List Char} (blank : isFilled line = false) :
    readLines keepRepeated [] 1 (front ++ line :: behind) =
      (readLines keepRepeated [] 1 (front ++ behind)).renumber (shiftedBy (front.length + 1)) := by
  have stays : ∀ i < front.length, shiftedBy (front.length + 1) (1 + i) = 1 + i := by
    intro i inFront
    exact if_neg (by omega)
  have moves : ∀ i < behind.length,
      shiftedBy (front.length + 1) (1 + front.length + i) = 1 + front.length + 1 + i := by
    intro i _
    rw [shiftedBy, if_pos (by omega)]
    omega
  have kept := readLines_renumber _ keepRepeated [] stays
  rw [List.map_nil] at kept
  rw [readLines_append, readLines_append]
  cases result : readLines keepRepeated [] 1 front with
  | mk entries fault =>
      rw [result] at kept
      cases fault with
      | some fault => exact kept
      | none =>
          have sameEntries :
              entries.map (Entry.renumber (shiftedBy (front.length + 1))) = entries :=
            (congrArg Listing.entries kept).symm
          have moved := readLines_renumber _ keepRepeated entries moves
          rw [sameEntries] at moved
          exact (readLines_blank blank).trans moved

end Listing

theorem exists_rows_of_ended {before : List Char} (ended : ∀ c ∈ before.getLast?, c = '\n') :
    ∃ front, front.length = before.count '\n' ∧
      ∀ rest, rows (before ++ rest) = front ++ rows rest := by
  rcases List.eq_nil_or_concat before with rfl | ⟨before, last, rfl⟩
  · exact ⟨[], rfl, fun rest => rfl⟩
  · obtain rfl : last = '\n' := ended last (by simp)
    refine ⟨rows before, ?_, fun rest => ?_⟩
    · simp
    · rw [List.concat_eq_append, List.append_assoc, List.singleton_append, rows_append_feed]

/-- Putting in a line of blanks puts in a row, but for rows without a character at the end. -/
theorem BlankLineInserted.exists_rows {number : Nat} {cs ds : List Char}
    (inserted : BlankLineInserted number cs ds) :
    ∃ front line behind beyond, number = front.length + 1 ∧ isFilled line = false ∧
      rows cs = front ++ behind ++ beyond ∧ rows ds = front ++ line :: behind ∧
        ∀ row ∈ beyond, isFilled row = false := by
  cases inserted with
  | @inFront before blank after ended onlyBlanks noFeed =>
      obtain ⟨front, counted, cut⟩ := exists_rows_of_ended ended
      refine ⟨front, blank, rows after, [], by rw [counted], isFilled_of_blank onlyBlanks, ?_, ?_,
        by simp⟩
      · rw [cut, List.append_nil]
      · rw [cut, rows_append_feed, rows_of_not_mem noFeed, List.singleton_append]
  | @atEnd before blank ended onlyBlanks noFeed =>
      obtain ⟨front, counted, cut⟩ := exists_rows_of_ended ended
      refine ⟨front, blank, [], [[]], by rw [counted], isFilled_of_blank onlyBlanks, ?_, ?_,
        by simp [isFilled]⟩
      · have whole := cut []
        rw [List.append_nil] at whole
        rw [whole, List.append_nil]
        rfl
      · rw [cut, rows_of_not_mem noFeed]
  | @behind before blank onlyBlanks noFeed =>
      refine ⟨rows cs, blank, [], [], by rw [length_rows], isFilled_of_blank onlyBlanks, by simp,
        ?_, by simp⟩
      rw [rows_append_feed, rows_of_not_mem noFeed]

/-! ## Spaces and tabs -/

/-- A fault of a listing without the texts that it quotes from a line with its spacing. -/
def ListingFault.unquoted : ListingFault → ListingFault
  | .malformed line _ cause => .malformed line "" cause.unquoted
  | fault => fault

/-- Two lines hold the same prototype or have faults of one kind. -/
def ReadAlike (line other : List Char) : Prop :=
  (parse (String.ofList line)).mapError Fault.unquoted =
    (parse (String.ofList other)).mapError Fault.unquoted

theorem readAlike_of_spacedAlike {line other : List Char} (alike : SpacedAlike line other) :
    ReadAlike line other := by
  rw [ReadAlike, parse_ofList, parse_ofList]
  exact parseTrimmed_of_alike (trimmed_trim line) (trimmed_trim other) alike.trim

namespace ReadAlike

variable {line other : List Char}

theorem eq_ok (alike : ReadAlike line other) {p : Prototype}
    (parsed : parse (String.ofList line) = .ok p) : parse (String.ofList other) = .ok p := by
  rw [ReadAlike, parsed] at alike
  cases result : parse (String.ofList other) with
  | error fault =>
      rw [result] at alike
      cases alike
  | ok q =>
      rw [result] at alike
      exact congrArg Except.ok (Except.ok.inj alike).symm

theorem exists_eq_error (alike : ReadAlike line other) {fault : Prototype.Fault}
    (failed : parse (String.ofList line) = .error fault) :
    ∃ otherFault, parse (String.ofList other) = .error otherFault ∧
      otherFault.unquoted = fault.unquoted := by
  rw [ReadAlike, failed] at alike
  cases result : parse (String.ofList other) with
  | error otherFault =>
      rw [result] at alike
      exact ⟨otherFault, rfl, (Except.error.inj alike).symm⟩
  | ok q =>
      rw [result] at alike
      cases alike

theorem isFilled_eq (alike : ReadAlike line other) : isFilled line = isFilled other := by
  have blank (cs : List Char) : isFilled cs = false ↔
      (parse (String.ofList cs)).mapError Prototype.Fault.unquoted = .error .empty := by
    rw [isFilled_eq_false_iff, ← parseTrimmed_eq_empty_iff, ← parse_ofList]
    cases parse (String.ofList cs) with
    | ok p => simp
    | error fault => cases fault <;> simp [Prototype.Fault.unquoted]
  have bothBlank : isFilled line = false ↔ isFilled other = false := by
    rw [blank, blank]
    exact Eq.to_iff (congrArg (· = Except.error .empty) alike)
  cases filled : isFilled line with
  | false => exact (bothBlank.mp filled).symm
  | true =>
      cases alsoFilled : isFilled other with
      | false => cases (bothBlank.mpr alsoFilled).symm.trans filled
      | true => rfl

end ReadAlike

namespace Listing

def unquoted (listing : Listing) : Listing :=
  ⟨listing.entries, listing.fault.map ListingFault.unquoted⟩

@[simp]
theorem prototypes_unquoted (listing : Listing) :
    listing.unquoted.prototypes = listing.prototypes.mapError ListingFault.unquoted := by
  obtain ⟨entries, fault⟩ := listing
  cases fault <;> rfl

/-- Lines that are read alike one by one are read alike as a listing. -/
theorem readLines_of_alike {keepRepeated : Bool} {before : List Entry} {number : Nat}
    {lines others : List (List Char)} (alike : List.Forall₂ ReadAlike lines others) :
    (readLines keepRepeated before number lines).unquoted =
      (readLines keepRepeated before number others).unquoted := by
  induction alike generalizing before number with
  | nil => rfl
  | @cons line other _ _ here _ ih =>
      cases atLine keepRepeated before line with
      | blank blank =>
          rw [readLines_blank blank, readLines_blank (here.isFilled_eq ▸ blank), ih]
      | malformed filled failed =>
          obtain ⟨otherFault, alsoFailed, sameKind⟩ := here.exists_eq_error failed
          rw [readLines_malformed filled failed,
            readLines_malformed (here.isFilled_eq ▸ filled) alsoFailed]
          simp [unquoted, ListingFault.unquoted, sameKind]
      | declared parsed accepted =>
          rw [readLines_declared parsed accepted, readLines_declared (here.eq_ok parsed) accepted,
            ih]
      | repeated refused parsed found =>
          subst refused
          rw [readLines_repeated parsed found, readLines_repeated (here.eq_ok parsed) found]

end Listing

/-- Where blanks separate nothing: at the ends of a line and beside a parenthesis or a comma. -/
def Loose (before after : List Char) : Prop :=
  (∀ c ∈ before.getLast?, c = '\n' ∨ isDelimiter c = true) ∨
    (∀ c ∈ after.head?, c = '\n' ∨ isDelimiter c = true) ∨
      ∃ rest, after = '\r' :: '\n' :: rest

/-- A run of spaces and tabs is replaced by another, or one is added where blanks separate
nothing. -/
inductive Respaced : List Char → List Char → Prop where
  | replaced {before gap other after : List Char} :
    gap ≠ [] → other ≠ [] → (∀ c ∈ gap, isSpacing c = true) → (∀ c ∈ other, isSpacing c = true) →
      Respaced (before ++ gap ++ after) (before ++ other ++ after)
  | added {before gap after : List Char} :
    (∀ c ∈ gap, isSpacing c = true) → Loose before after →
      Respaced (before ++ after) (before ++ gap ++ after)

/-- What is put between two texts without a line feed becomes part of one row. -/
theorem exists_rows_around (before after : List Char) :
    ∃ front row next others,
      (∀ gap, '\n' ∉ gap →
        rows (before ++ gap ++ after) = front ++ (row ++ gap ++ next) :: others) ∧
      (Loose before after → Parts row next) := by
  obtain ⟨start, row, front, isBefore, noFeed, continued⟩ := exists_last_row before
  obtain ⟨next, stop, others, isAfter, noneNext, begun⟩ := exists_first_row after
  refine ⟨front, row, next, others, fun gap noneGap => ?_, ?_⟩
  · rw [List.append_assoc, continued, ← List.append_assoc, begun _ (by simp [noFeed, noneGap])]
  · rintro (behind | ahead | ⟨rest, isEnding⟩)
    · refine .inl fun c isLast => ?_
      have isLastBefore : c ∈ before.getLast? := by
        rw [isBefore, List.getLast?_append, Option.mem_def.mp isLast]
        rfl
      refine (behind c isLastBefore).resolve_left ?_
      rintro rfl
      exact noFeed (List.mem_of_getLast? isLast)
    · refine .inr (.inl fun c isFirst => ?_)
      have isFirstAfter : c ∈ after.head? := by
        rw [isAfter, List.head?_append, Option.mem_def.mp isFirst]
        rfl
      refine (ahead c isFirstAfter).resolve_left ?_
      rintro rfl
      exact noneNext (List.mem_of_head? isFirst)
    · refine .inr (.inr fun c member => ?_)
      have pair : next ++ stop = ['\r'] ++ '\n' :: rest := isAfter.symm.trans isEnding
      rcases List.append_eq_append_iff.mp pair with ⟨_, whole, -⟩ | ⟨beyond, isNext, feeds⟩
      · have isReturn : c ∈ ['\r'] := by simp [whole, member]
        rw [List.mem_singleton.mp isReturn]
        rfl
      · cases beyond with
        | nil =>
            rw [isNext, List.append_nil, List.mem_singleton] at member
            rw [member]
            rfl
        | cons d beyond =>
            obtain ⟨rfl, -⟩ := List.cons.inj feeds
            exact absurd (by simp [isNext]) noneNext

theorem feed_not_mem_of_spacing {gap : List Char} (spacing : ∀ c ∈ gap, isSpacing c = true) :
    '\n' ∉ gap := fun member => by cases spacing '\n' member

theorem Respaced.exists_rows {cs ds : List Char} (respaced : Respaced cs ds) :
    ∃ front row other others, rows cs = front ++ row :: others ∧
      rows ds = front ++ other :: others ∧ SpacedAlike row other := by
  cases respaced with
  | @replaced before gap other after parted alsoParted spacing alsoSpacing =>
      obtain ⟨front, row, next, others, cut, -⟩ := exists_rows_around before after
      exact ⟨front, _, _, others, cut gap (feed_not_mem_of_spacing spacing),
        cut other (feed_not_mem_of_spacing alsoSpacing),
        .of_replaced spacing alsoSpacing parted alsoParted row next⟩
  | @added before gap after spacing loose =>
      obtain ⟨front, row, next, others, cut, parts⟩ := exists_rows_around before after
      have whole := cut [] (by simp)
      rw [List.append_nil, List.append_nil] at whole
      exact ⟨front, _, _, others, whole, cut gap (feed_not_mem_of_spacing spacing),
        .of_added spacing (parts loose)⟩

/-! ## Byte order marks -/

theorem head?_append_of_unmarked {before gap after : List Char} {mark : Char}
    (unmarked : (before ++ after).head? ≠ some mark) (noMark : mark ∉ gap) :
    (before ++ (gap ++ after)).head? ≠ some mark := by
  cases before with
  | cons c before => exact unmarked
  | nil =>
      cases gap with
      | nil => exact unmarked
      | cons c gap =>
          rw [List.mem_cons, not_or] at noMark
          simpa using Ne.symm noMark.1

theorem mark_not_mem_of_blank {gap : List Char} (blank : ∀ c ∈ gap, isBlank c = true) :
    '\uFEFF' ∉ gap := fun member => by cases blank '\uFEFF' member

theorem BlankLineInserted.unmarked {number : Nat} {cs ds : List Char}
    (inserted : BlankLineInserted number cs ds) (unmarked : cs.head? ≠ some '\uFEFF') :
    ds.head? ≠ some '\uFEFF' := by
  cases inserted with
  | @inFront before blank after _ onlyBlanks _ =>
      have noMark : '\uFEFF' ∉ blank ++ ['\n'] := by simp [mark_not_mem_of_blank onlyBlanks]
      simpa using head?_append_of_unmarked unmarked noMark
  | @atEnd before blank _ onlyBlanks _ =>
      rw [← List.append_nil cs] at unmarked
      simpa using head?_append_of_unmarked unmarked (mark_not_mem_of_blank onlyBlanks)
  | @behind before blank onlyBlanks _ =>
      have noMark : '\uFEFF' ∉ '\n' :: blank := by simp [mark_not_mem_of_blank onlyBlanks]
      rw [← List.append_nil cs] at unmarked
      simpa using head?_append_of_unmarked unmarked noMark

theorem Respaced.unmarked {cs ds : List Char} (respaced : Respaced cs ds)
    (unmarked : cs.head? ≠ some '\uFEFF') : ds.head? ≠ some '\uFEFF' := by
  cases respaced with
  | @replaced before gap other after parted alsoParted _ alsoSpacing =>
      cases before with
      | cons c before => exact unmarked
      | nil =>
          obtain ⟨c, other, rfl⟩ := List.exists_cons_of_ne_nil alsoParted
          rintro ⟨rfl⟩
          cases alsoSpacing '\uFEFF' List.mem_cons_self
  | @added before gap after spacing _ =>
      rw [List.append_assoc]
      exact head?_append_of_unmarked unmarked
        (mark_not_mem_of_blank fun c member => isBlank_of_isSpacing (spacing c member))

theorem unmarked_of_respaced {cs ds : List Char} (respaced : Relation.ReflTransGen Respaced cs ds)
    (unmarked : cs.head? ≠ some '\uFEFF') : ds.head? ≠ some '\uFEFF' := by
  induction respaced with
  | refl => exact unmarked
  | tail _ step ih => exact step.unmarked ih

/-! ## Listings -/

theorem readLines_respaced (keepRepeated : Bool) {cs ds : List Char}
    (respaced : Relation.ReflTransGen Respaced cs ds) :
    (Listing.readLines keepRepeated [] 1 (rows ds)).unquoted =
      (Listing.readLines keepRepeated [] 1 (rows cs)).unquoted := by
  induction respaced with
  | refl => rfl
  | tail _ step ih =>
      obtain ⟨front, row, next, others, cut, alsoCut, alike⟩ := step.exists_rows
      have unchanged (lines : List (List Char)) : List.Forall₂ ReadAlike lines lines :=
        List.forall₂_same.mpr fun _ _ => rfl
      have rowsAlike : List.Forall₂ ReadAlike (front ++ row :: others) (front ++ next :: others) :=
        List.rel_append (unchanged front)
          (.cons (readAlike_of_spacedAlike alike) (unchanged others))
      rw [← ih, cut, alsoCut, Listing.readLines_of_alike rowsAlike]

section Listings

variable (keepRepeated : Bool)

@[simp]
theorem parseListing_withReturns (text : String) :
    parseListing keepRepeated (String.ofList (withReturns text.toList)) =
      parseListing keepRepeated text := by
  rw [parseListing_eq_rows, parseListing_eq_rows, listingRows, String.toList_ofList,
    Listing.withoutMark_withReturns, Listing.readLines_congr (map_trim_rows_withReturns _)]
  rfl

@[simp]
theorem parseListing_append_feed (text : String) :
    parseListing keepRepeated (text ++ "\n") = parseListing keepRepeated text := by
  have ended : listingRows (text ++ "\n") = listingRows text ++ [[]] := by
    have unmarked : "".toList.head? ≠ some '\uFEFF' := by simp
    have joined := listingRows_joined text unmarked
    rwa [String.append_empty] at joined
  rw [parseListing_eq_rows, ended, Listing.readLines_append_blank _ (by simp [isFilled]),
    ← parseListing_eq_rows]

section Unmarked

variable {text : String} (unmarked : text.toList.head? ≠ some '\uFEFF')
include unmarked

theorem listingRows_of_unmarked : listingRows text = rows text.toList := by
  rw [listingRows, Listing.withoutMark_of_head? unmarked]

theorem parseListing_mark_append :
    parseListing keepRepeated ("\uFEFF" ++ text) = parseListing keepRepeated text := by
  have marked : listingRows ("\uFEFF" ++ text) = listingRows text := by
    rw [listingRows_of_unmarked unmarked, listingRows, String.toList_append]
    rfl
  rw [parseListing_eq_rows, marked, ← parseListing_eq_rows]

theorem parseListing_inserted {number : Nat} {other : String}
    (inserted : BlankLineInserted number text.toList other.toList) :
    parseListing keepRepeated other =
      (parseListing keepRepeated text).mapError (ListingFault.renumber (shiftedBy number)) := by
  obtain ⟨front, line, behind, beyond, rfl, blank, isText, isOther, alsoBlank⟩ :=
    inserted.exists_rows
  rw [parseListing_eq_rows, parseListing_eq_rows,
    listingRows_of_unmarked (inserted.unmarked unmarked), listingRows_of_unmarked unmarked, isText,
    isOther, Listing.readLines_append_blank _ alsoBlank,
    Listing.readLines_inserted keepRepeated front behind blank, Listing.prototypes_renumber]

theorem parseListing_respaced {other : String}
    (respaced : Relation.ReflTransGen Respaced text.toList other.toList) :
    (parseListing keepRepeated other).mapError ListingFault.unquoted =
      (parseListing keepRepeated text).mapError ListingFault.unquoted := by
  rw [parseListing_eq_rows, parseListing_eq_rows,
    listingRows_of_unmarked (unmarked_of_respaced respaced unmarked),
    listingRows_of_unmarked unmarked, ← Listing.prototypes_unquoted,
    readLines_respaced keepRepeated respaced, Listing.prototypes_unquoted]

end Unmarked

end Listings

/-- The layout of a text has no part in what its listing declares or why it is refused.  Carriage
returns in front of line feeds, a line feed at the end and a byte order mark change nothing; a blank
line moves the numbers of the lines behind it by one; and other spacing may only change the text
that a fault quotes. -/
theorem layout_is_not_read (keepRepeated : Bool) (text : String) :
    parseListing keepRepeated (String.ofList (withReturns text.toList)) =
        parseListing keepRepeated text ∧
      parseListing keepRepeated (text ++ "\n") = parseListing keepRepeated text ∧
      (text.toList.head? ≠ some '\uFEFF' →
        parseListing keepRepeated ("\uFEFF" ++ text) = parseListing keepRepeated text ∧
          (∀ number (other : String), BlankLineInserted number text.toList other.toList →
            parseListing keepRepeated other =
              (parseListing keepRepeated text).mapError
                (ListingFault.renumber (shiftedBy number))) ∧
          ∀ other : String, Relation.ReflTransGen Respaced text.toList other.toList →
            (parseListing keepRepeated other).mapError ListingFault.unquoted =
              (parseListing keepRepeated text).mapError ListingFault.unquoted) :=
  ⟨parseListing_withReturns keepRepeated text, parseListing_append_feed keepRepeated text,
    fun unmarked => ⟨parseListing_mark_append keepRepeated unmarked,
      fun _ _ inserted => parseListing_inserted keepRepeated unmarked inserted,
      fun _ respaced => parseListing_respaced keepRepeated unmarked respaced⟩⟩

theorem layout_of_refused_listings_is_not_read :
    "int\tf(int  a)\n \nint f ( )".toList.head? ≠ some '\uFEFF' ∧
      parseListing false "int\tf(int  a)\n \nint f ( )" = .error (.repeated ⟨"f", 1, 3⟩) ∧
      BlankLineInserted 2 "int\tf(int  a)\n \nint f ( )".toList
        "int\tf(int  a)\n\t\r\n \nint f ( )".toList ∧
      parseListing false "int\tf(int  a)\n\t\r\n \nint f ( )" =
        .error (.repeated ⟨"f", 1, 4⟩) ∧
      parseListing true "void g()\nint f(b  c*)" =
        .error (.malformed 2 "int f(b  c*)" (.invalidParameter "b  c*")) ∧
      Relation.ReflTransGen Respaced "void g()\nint f(b  c*)".toList
        "void g()\nint f(b\tc* )".toList ∧
      (parseListing true "void g()\nint f(b\tc* )").mapError ListingFault.unquoted =
        .error (.malformed 2 "" (.invalidParameter "")) := by
  have unmarked : "int\tf(int  a)\n \nint f ( )".toList.head? ≠ some '\uFEFF' := by decide
  have alsoUnmarked : "void g()\nint f(b  c*)".toList.head? ≠ some '\uFEFF' := by decide
  have repeating : parseListing false "int\tf(int  a)\n \nint f ( )" =
      .error (.repeated ⟨"f", 1, 3⟩) := rfl
  have malformed : parseListing true "void g()\nint f(b  c*)" =
      .error (.malformed 2 "int f(b  c*)" (.invalidParameter "b  c*")) := rfl
  have inserted : BlankLineInserted 2 "int\tf(int  a)\n \nint f ( )".toList
      "int\tf(int  a)\n\t\r\n \nint f ( )".toList :=
    @BlankLineInserted.inFront "int\tf(int  a)\n".toList "\t\r".toList " \nint f ( )".toList
      (by simp) (by decide) (by decide)
  have replaced : Respaced "void g()\nint f(b  c*)".toList "void g()\nint f(b\tc*)".toList :=
    @Respaced.replaced "void g()\nint f(b".toList [' ', ' '] ['\t'] "c*)".toList
      (by decide) (by decide) (by decide) (by decide)
  have added : Respaced "void g()\nint f(b\tc*)".toList "void g()\nint f(b\tc* )".toList :=
    @Respaced.added "void g()\nint f(b\tc*".toList [' '] ")".toList (by decide)
      (.inr (.inl (by simp [isDelimiter])))
  have respaced := Relation.ReflTransGen.tail (.single replaced) added
  have moved := ((layout_is_not_read false _).2.2 unmarked).2.1 _ _ inserted
  have alike := ((layout_is_not_read true _).2.2 alsoUnmarked).2.2 _ respaced
  rw [repeating] at moved
  rw [malformed] at alike
  exact ⟨unmarked, repeating, inserted, moved, malformed, respaced, alike⟩

end Prototype
end BindingGen
