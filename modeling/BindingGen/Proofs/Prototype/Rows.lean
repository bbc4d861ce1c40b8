import BindingGen.Proofs.Prototype.Listing
import BindingGen.Proofs.Text.Rows

/-!
# Reading a listing row by row

Reading looks at the trimmed lines only, so it may as well be given the pieces between the line
feeds: a carriage return at the end of a line and nothing behind the last line feed are blanks.
Reading goes on at any row from the entries before it, and the numbers of the lines matter only for
what is reported.
-/

namespace BindingGen
namespace Prototype

open Text

namespace Listing

/-! ## One line -/

/-- The four ways in which reading goes on at a line. -/
inductive AtLine (keepRepeated : Bool) (before : List Entry) (line : List Char) : Prop where
  | blank : isFilled line = false → AtLine keepRepeated before line
  | malformed {cause : Prototype.Fault} :
    isFilled line = true → parse (String.ofList line) = .error cause →
      AtLine keepRepeated before line
  | declared {p : Prototype} :
    parse (String.ofList line) = .ok p →
      (keepRepeated = false → firstLine? before p.name = none) →
        AtLine keepRepeated before line
  | repeated {p : Prototype} {first : Nat} :
    keepRepeated = false → parse (String.ofList line) = .ok p →
      firstLine? before p.name = some first → AtLine keepRepeated before line

theorem atLine (keepRepeated : Bool) (before : List Entry) (line : List Char) :
    AtLine keepRepeated before line := by
  cases filled : isFilled line with
  | false => exact .blank filled
  | true =>
      cases result : parse (String.ofList line) with
      | error cause => exact .malformed filled result
      | ok p =>
          by_cases accepted : keepRepeated = false → firstLine? before p.name = none
          · exact .declared result accepted
          · obtain ⟨refused, found⟩ := Classical.not_imp.mp accepted
            obtain ⟨first, isFirst⟩ := Option.ne_none_iff_exists'.mp found
            exact .repeated refused result isFirst

/-! ## Several lines -/

section Lines

variable {keepRepeated : Bool} {before : List Entry} {number : Nat}

theorem readLines_congr {lines others : List (List Char)}
    (same : lines.map trim = others.map trim) :
    readLines keepRepeated before number lines = readLines keepRepeated before number others := by
  induction lines generalizing others before number with
  | nil =>
      obtain rfl : others = [] := by simpa using same.symm
      rfl
  | cons line lines ih =>
      cases others with
      | nil => cases same
      | cons other others =>
          obtain ⟨here, further⟩ := List.cons.inj same
          simp only [readLines, here, ih further]

theorem readLines_of_blank {lines : List (List Char)}
    (blank : ∀ line ∈ lines, isFilled line = false) :
    readLines keepRepeated before number lines = ⟨before, none⟩ := by
  induction lines generalizing number with
  | nil => rfl
  | cons line rest ih =>
      obtain ⟨here, further⟩ := List.forall_mem_cons.mp blank
      rw [readLines_blank here, ih further]

/-- Goes on reading from the entries of a listing without a fault. -/
def andThen (listing : Listing) (next : List Entry → Listing) : Listing :=
  match listing.fault with
  | some _ => listing
  | none => next listing.entries

theorem readLines_append (first second : List (List Char)) :
    readLines keepRepeated before number (first ++ second) =
      (readLines keepRepeated before number first).andThen fun entries =>
        readLines keepRepeated entries (number + first.length) second := by
  induction first generalizing before number with
  | nil => rfl
  | cons line rest ih =>
      have next : number + (line :: rest).length = number + 1 + rest.length := by
        rw [List.length_cons, Nat.add_assoc, Nat.add_comm 1]
      rw [List.cons_append, next]
      cases atLine keepRepeated before line with
      | blank blank => rw [readLines_blank blank, readLines_blank blank, ih]
      | malformed filled failed =>
          rw [readLines_malformed filled failed, readLines_malformed filled failed]
          rfl
      | declared parsed accepted =>
          rw [readLines_declared parsed accepted, readLines_declared parsed accepted, ih]
      | repeated refused parsed found =>
          subst refused
          rw [readLines_repeated parsed found, readLines_repeated parsed found]
          rfl

theorem readLines_append_blank (lines : List (List Char)) {beyond : List (List Char)}
    (blank : ∀ line ∈ beyond, isFilled line = false) :
    readLines keepRepeated before number (lines ++ beyond) =
      readLines keepRepeated before number lines := by
  rw [readLines_append]
  cases readLines keepRepeated before number lines with
  | mk entries fault =>
      cases fault with
      | some fault => rfl
      | none => exact readLines_of_blank blank

/-- Where repeated names are kept, the entries before are not looked at. -/
theorem readLines_true (before : List Entry) (number : Nat) (lines : List (List Char)) :
    readLines true before number lines =
      ⟨before ++ (readLines true [] number lines).entries,
        (readLines true [] number lines).fault⟩ := by
  induction lines generalizing before number with
  | nil => simp [readLines]
  | cons line rest ih =>
      cases atLine true [] line with
      | blank blank => rw [readLines_blank blank, readLines_blank blank, ih]
      | malformed filled failed =>
          rw [readLines_malformed filled failed, readLines_malformed filled failed,
            List.append_nil]
      | @declared p parsed accepted =>
          have kept : true = false → firstLine? before p.name = none := fun refused => by
            cases refused
          rw [readLines_declared parsed kept, readLines_declared parsed accepted, ih,
            ih ([] ++ [Entry.mk number p]), List.nil_append, List.append_assoc]
      | repeated refused => cases refused

end Lines

end Listing

/-! ## Numbers of lines -/

def Entry.renumber (f : Nat → Nat) (entry : Entry) : Entry :=
  { entry with line := f entry.line }

/-- Puts other numbers in the place of the lines that a fault reports. -/
def ListingFault.renumber (f : Nat → Nat) : ListingFault → ListingFault
  | .malformed line text cause => .malformed (f line) text cause
  | .repeated ⟨name, firstLine, line⟩ => .repeated ⟨name, f firstLine, f line⟩

namespace Listing

def renumber (f : Nat → Nat) (listing : Listing) : Listing :=
  ⟨listing.entries.map (Entry.renumber f), listing.fault.map (ListingFault.renumber f)⟩

@[simp]
theorem prototypes_renumber (f : Nat → Nat) (listing : Listing) :
    (listing.renumber f).prototypes = listing.prototypes.mapError (ListingFault.renumber f) := by
  obtain ⟨entries, fault⟩ := listing
  cases fault with
  | none => simp [renumber, prototypes, Entry.renumber]
  | some fault => rfl

@[simp]
theorem firstLine?_map_renumber (f : Nat → Nat) (entries : List Entry) (name : String) :
    firstLine? (entries.map (Entry.renumber f)) name = (firstLine? entries name).map f := by
  simp [firstLine?, List.find?_map, Function.comp_def, Entry.renumber]

/-- Reading lines that are numbered otherwise gives the same listing with other numbers. -/
theorem readLines_renumber (f : Nat → Nat) (keepRepeated : Bool) (before : List Entry)
    {number other : Nat} {lines : List (List Char)}
    (agrees : ∀ i < lines.length, f (number + i) = other + i) :
    readLines keepRepeated (before.map (Entry.renumber f)) other lines =
      (readLines keepRepeated before number lines).renumber f := by
  induction lines generalizing before number other with
  | nil => rfl
  | cons line rest ih =>
      have here : f number = other := agrees 0 (Nat.zero_lt_succ rest.length)
      have further : ∀ i < rest.length, f (number + 1 + i) = other + 1 + i := by
        intro i inRest
        have next := agrees (i + 1) (Nat.succ_lt_succ inRest)
        rwa [Nat.add_comm i, ← Nat.add_assoc, ← Nat.add_assoc] at next
      cases atLine keepRepeated before line with
      | blank blank => rw [readLines_blank blank, readLines_blank blank, ih _ further]
      | malformed filled failed =>
          rw [readLines_malformed filled failed, readLines_malformed filled failed, ← here]
          rfl
      | @declared p parsed accepted =>
          have alsoAccepted : keepRepeated = false →
              firstLine? (before.map (Entry.renumber f)) p.name = none := by
            intro refused
            rw [firstLine?_map_renumber, accepted refused]
            rfl
          have extended : (before ++ [Entry.mk number p]).map (Entry.renumber f) =
              before.map (Entry.renumber f) ++ [Entry.mk other p] := by
            rw [List.map_append, ← here]
            rfl
          rw [readLines_declared parsed accepted, readLines_declared parsed alsoAccepted,
            ← ih _ further, extended]
      | @repeated p first refused parsed found =>
          subst refused
          have alsoFound : firstLine? (before.map (Entry.renumber f)) p.name = some (f first) := by
            rw [firstLine?_map_renumber, found]
            rfl
          rw [readLines_repeated parsed found, readLines_repeated parsed alsoFound, ← here]
          rfl

/-! ## Rows -/

@[simp]
theorem trim_ended (piece : List Char) :
    trim (if piece.getLast? = some '\r' then piece.dropLast else piece) = trim piece := by
  split
  next ended =>
    obtain ⟨front, shape⟩ := List.getLast?_eq_some_iff.mp ended
    rw [shape, List.dropLast_concat, trim_append_blanks (by simp [isBlank])]
  next => rfl

/-- The lines of a text are its rows but for blanks at their ends and nothing in the last row. -/
theorem exists_map_trim_rows (cs : List Char) :
    ∃ beyond, (rows cs).map trim = (lines cs ++ beyond).map trim ∧
      ∀ line ∈ beyond, isFilled line = false := by
  obtain ⟨front, last, cut⟩ : ∃ front last, rows cs = front ++ [last] := by
    obtain isEmpty | ⟨front, last, shape⟩ := List.eq_nil_or_concat (rows cs)
    · exact absurd isEmpty (rows_ne_nil cs)
    · exact ⟨front, last, by rw [shape, List.concat_eq_append]⟩
  have pieces : splitWhere (· == '\n') cs = front ++ [last] := cut
  rw [cut]
  unfold lines
  rw [pieces]
  cases last with
  | nil => exact ⟨[[]], by simp [Function.comp_def], by simp [isFilled]⟩
  | cons c last => exact ⟨[], by simp [Function.comp_def], by simp⟩

@[simp]
theorem readLines_lines (keepRepeated : Bool) (before : List Entry) (number : Nat)
    (cs : List Char) :
    readLines keepRepeated before number (lines cs) =
      readLines keepRepeated before number (rows cs) := by
  obtain ⟨beyond, same, blank⟩ := exists_map_trim_rows cs
  rw [readLines_congr same, readLines_append_blank (lines cs) blank]

/-! ## Byte order marks -/

@[simp]
theorem withoutMark_append_feed (first second : List Char) :
    withoutMark (first ++ '\n' :: second) = withoutMark first ++ '\n' :: second := by
  by_cases marked : first.head? = some '\uFEFF'
  · obtain ⟨rest, rfl⟩ := List.head?_eq_some_iff.mp marked
    rfl
  · have alsoUnmarked : (first ++ '\n' :: second).head? ≠ some '\uFEFF' := by
      cases first with
      | nil => simp
      | cons c first => exact marked
    rw [withoutMark_of_head? marked, withoutMark_of_head? alsoUnmarked]

@[simp]
theorem withoutMark_withReturns (cs : List Char) :
    withoutMark (withReturns cs) = withReturns (withoutMark cs) := by
  by_cases marked : cs.head? = some '\uFEFF'
  · obtain ⟨rest, rfl⟩ := List.head?_eq_some_iff.mp marked
    rw [withReturns_cons_of_ne (by decide)]
    rfl
  · have alsoUnmarked : (withReturns cs).head? ≠ some '\uFEFF' := by
      cases cs with
      | nil => simp [withReturns]
      | cons c cs =>
          by_cases isFeed : c = '\n'
          · subst isFeed
            simp
          · rw [withReturns_cons_of_ne isFeed]
            exact marked
    rw [withoutMark_of_head? marked, withoutMark_of_head? alsoUnmarked]

@[simp]
theorem count_feed_withoutMark (cs : List Char) :
    (withoutMark cs).count '\n' = cs.count '\n' := by
  by_cases marked : cs.head? = some '\uFEFF'
  · obtain ⟨rest, rfl⟩ := List.head?_eq_some_iff.mp marked
    rw [List.count_cons_of_ne (by decide)]
    rfl
  · rw [withoutMark_of_head? marked]

end Listing

/-! ## Listings -/

/-- The rows of a text behind its byte order mark. -/
def listingRows (text : String) : List (List Char) :=
  rows (Listing.withoutMark text.toList)

theorem parseListing_eq_rows (keepRepeated : Bool) (text : String) :
    parseListing keepRepeated text =
      (Listing.readLines keepRepeated [] 1 (listingRows text)).prototypes := by
  rw [parseListing, Listing.read, Listing.readLines_lines]
  rfl

@[simp]
theorem length_listingRows (text : String) :
    (listingRows text).length = text.toList.count '\n' + 1 := by
  rw [listingRows, length_rows, Listing.count_feed_withoutMark]

/-- The rows of two texts with a line feed between them. -/
theorem listingRows_joined (first : String) {second : String}
    (unmarked : second.toList.head? ≠ some '\uFEFF') :
    listingRows (first ++ "\n" ++ second) = listingRows first ++ listingRows second := by
  have joined : (first ++ "\n" ++ second).toList = first.toList ++ '\n' :: second.toList := by
    simp
  rw [listingRows, joined, Listing.withoutMark_append_feed, rows_append_feed, listingRows,
    listingRows, Listing.withoutMark_of_head? unmarked]

theorem declares_iff_trimmed {lines : List (List Char)} {i : Nat} {p : Prototype} :
    Declares lines i p ↔
      ∃ line, (lines.map trim)[i]? = some line ∧ parseTrimmed line = .ok p := by
  simp only [Declares, List.getElem?_map, Option.map_eq_some_iff, parse_ofList]
  constructor
  · rintro ⟨line, isLine, parsed⟩
    exact ⟨trim line, ⟨line, isLine, rfl⟩, parsed⟩
  · rintro ⟨_, ⟨line, isLine, rfl⟩, parsed⟩
    exact ⟨line, isLine, parsed⟩

/-- The same rows and lines declare prototypes. -/
@[simp]
theorem declares_listingRows_iff {text : String} {i : Nat} {p : Prototype} :
    Declares (listingRows text) i p ↔ Declares (listingLines text) i p := by
  obtain ⟨beyond, same, blank⟩ := Listing.exists_map_trim_rows (Listing.withoutMark text.toList)
  have appended : Declares (listingRows text) i p ↔ Declares (listingLines text ++ beyond) i p := by
    rw [declares_iff_trimmed, declares_iff_trimmed, listingRows, same]
    rfl
  rw [appended]
  constructor
  · rintro ⟨line, isLine, parsed⟩
    refine ⟨line, ?_, parsed⟩
    rw [List.getElem?_append] at isLine
    split at isLine
    next => exact isLine
    next =>
      have isBlank := blank line (List.mem_of_getElem? isLine)
      cases isBlank.symm.trans (isFilled_of_parse parsed)
  · rintro ⟨line, isLine, parsed⟩
    have inLines := (List.getElem?_eq_some_iff.mp isLine).1
    exact ⟨line, by rw [List.getElem?_append_left inLines, isLine], parsed⟩

end Prototype
end BindingGen
