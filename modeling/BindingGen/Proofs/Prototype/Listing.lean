import BindingGen.Proofs.Prototype.Offences
import Mathlib.Data.List.Forall2

/-!
# What reading a listing reports

A listing is read to its end exactly when every line that is not blank holds a prototype and,
unless repeated names are kept, no two of these have the same name.  Otherwise its fault is that
of the first line that offends.
-/

namespace BindingGen
namespace Prototype

open Text

/-! ## Reading line after line -/

namespace Listing

@[simp]
theorem firstLine?_append (before : List Entry) (entry : Entry) (name : String) :
    firstLine? (before ++ [entry]) name =
      (firstLine? before name).or
        (if entry.prototype.name = name then some entry.line else none) := by
  unfold firstLine?
  rw [List.find?_append, List.find?_singleton]
  cases found : before.find? fun entry => entry.prototype.name == name with
  | some earlier => rfl
  | none => by_cases same : entry.prototype.name = name <;> simp [same]

section Steps

variable {keepRepeated : Bool} {before : List Entry} {number : Nat} {line : List Char}
  {rest : List (List Char)}

theorem readLines_blank (blank : isFilled line = false) :
    readLines keepRepeated before number (line :: rest) =
      readLines keepRepeated before (number + 1) rest := by
  simp [readLines, isFilled_eq_false_iff.mp blank]

theorem readLines_malformed (filled : isFilled line = true) {cause : Prototype.Fault}
    (failed : parse (String.ofList line) = .error cause) :
    readLines keepRepeated before number (line :: rest) =
      ⟨before, some (.malformed number (String.ofList (trim line)) cause)⟩ := by
  rw [parse_ofList] at failed
  simp [readLines, isFilled_iff.mp filled, failed]

theorem readLines_declared {p : Prototype} (parsed : parse (String.ofList line) = .ok p)
    (accepted : keepRepeated = false → firstLine? before p.name = none) :
    readLines keepRepeated before number (line :: rest) =
      readLines keepRepeated (before ++ [⟨number, p⟩]) (number + 1) rest := by
  have filled := isFilled_iff.mp (isFilled_of_parse parsed)
  rw [parse_ofList] at parsed
  cases keepRepeated with
  | false => simp [readLines, filled, parsed, accepted]
  | true =>
      cases found : firstLine? before p.name <;> simp [readLines, filled, parsed, found]

theorem readLines_repeated {p : Prototype} (parsed : parse (String.ofList line) = .ok p)
    {first : Nat} (found : firstLine? before p.name = some first) :
    readLines false before number (line :: rest) =
      ⟨before, some (.repeated ⟨p.name, first, number⟩)⟩ := by
  have filled := isFilled_iff.mp (isFilled_of_parse parsed)
  rw [parse_ofList] at parsed
  simp [readLines, filled, parsed, found]

end Steps

/-! ### Reading to the end -/

def names (entries : List Entry) : List String :=
  entries.map fun entry => entry.prototype.name

@[simp]
theorem names_append (before : List Entry) (entry : Entry) :
    names (before ++ [entry]) = names before ++ [entry.prototype.name] := by
  simp [names]

@[simp]
theorem firstLine?_eq_none_iff {entries : List Entry} {name : String} :
    firstLine? entries name = none ↔ name ∉ names entries := by
  simp [firstLine?, names]

/-- What it takes to read some lines to their end, and what they add to the entries before. -/
structure Completes (keepRepeated : Bool) (before : List Entry) (lines : List (List Char))
    (ps : List Prototype) : Prop where
  parses :
    List.Forall₂ (fun line p => parse (String.ofList line) = .ok p) (lines.filter isFilled) ps
  apart : keepRepeated = false → (names before ++ ps.map Prototype.name).Nodup

section Completes

variable {keepRepeated : Bool} {before : List Entry} {number : Nat} {line : List Char}
  {rest : List (List Char)} {ps : List Prototype}

theorem completes_nil_iff :
    Completes keepRepeated before [] ps ↔
      ps = [] ∧ (keepRepeated = false → (names before).Nodup) := by
  constructor
  · rintro ⟨parses, apart⟩
    obtain rfl := List.forall₂_nil_left_iff.mp parses
    exact ⟨rfl, by simpa using apart⟩
  · rintro ⟨rfl, apart⟩
    exact ⟨.nil, by simpa using apart⟩

theorem completes_blank_iff (blank : isFilled line = false) :
    Completes keepRepeated before (line :: rest) ps ↔ Completes keepRepeated before rest ps := by
  have skipped : (line :: rest).filter isFilled = rest.filter isFilled :=
    List.filter_cons_of_neg (by simp [blank])
  constructor
  · rintro ⟨parses, apart⟩
    exact ⟨skipped ▸ parses, apart⟩
  · rintro ⟨parses, apart⟩
    exact ⟨skipped ▸ parses, apart⟩

theorem not_completes_of_malformed (filled : isFilled line = true) {cause : Prototype.Fault}
    (failed : parse (String.ofList line) = .error cause) :
    ¬ Completes keepRepeated before (line :: rest) ps := by
  rintro ⟨parses, -⟩
  rw [List.filter_cons_of_pos filled, List.forall₂_cons_left_iff] at parses
  obtain ⟨p, others, parsed, -⟩ := parses
  cases failed.symm.trans parsed

theorem completes_declared_iff {p : Prototype} (parsed : parse (String.ofList line) = .ok p)
    (number : Nat) :
    Completes keepRepeated before (line :: rest) ps ↔
      ∃ others, ps = p :: others ∧ Completes keepRepeated (before ++ [⟨number, p⟩]) rest others := by
  have filled := isFilled_of_parse parsed
  constructor
  · rintro ⟨parses, apart⟩
    rw [List.filter_cons_of_pos filled, List.forall₂_cons_left_iff] at parses
    obtain ⟨q, others, alsoParsed, further, rfl⟩ := parses
    obtain rfl := Except.ok.inj (parsed.symm.trans alsoParsed)
    exact ⟨others, rfl, further, by simpa using apart⟩
  · rintro ⟨others, rfl, further, apart⟩
    refine ⟨?_, by simpa using apart⟩
    rw [List.filter_cons_of_pos filled]
    exact .cons parsed further

theorem nodup_names_append_iff {entry : Entry} :
    (names (before ++ [entry])).Nodup ↔
      (names before).Nodup ∧ firstLine? before entry.prototype.name = none := by
  rw [names_append, List.nodup_append, firstLine?_eq_none_iff]
  simp only [List.mem_singleton, forall_eq]
  constructor
  · rintro ⟨apart, -, differs⟩
    exact ⟨apart, fun known => differs _ known rfl⟩
  · rintro ⟨apart, fresh⟩
    exact ⟨apart, by simp, fun name known same => fresh (same ▸ known)⟩

theorem Completes.apart_before (completes : Completes false before rest ps) :
    (names before).Nodup :=
  (List.nodup_append.mp (completes.apart rfl)).1

end Completes

theorem readLines_eq_ok_iff {keepRepeated : Bool} {before : List Entry} {number : Nat}
    {lines : List (List Char)} (apart : keepRepeated = false → (names before).Nodup)
    {ps : List Prototype} :
    (readLines keepRepeated before number lines).prototypes = .ok ps ↔
      ∃ others, before.map Entry.prototype ++ others = ps ∧
        Completes keepRepeated before lines others := by
  induction lines generalizing before number with
  | nil =>
      have read : (readLines keepRepeated before number []).prototypes =
          .ok (before.map Entry.prototype) := rfl
      rw [read, Except.ok.injEq]
      constructor
      · rintro rfl
        exact ⟨[], by simp, completes_nil_iff.mpr ⟨rfl, apart⟩⟩
      · rintro ⟨others, rfl, completes⟩
        rw [(completes_nil_iff.mp completes).1, List.append_nil]
  | cons line rest ih =>
      cases filled : isFilled line with
      | false =>
          rw [readLines_blank filled, ih apart]
          simp only [completes_blank_iff filled]
      | true =>
          cases result : parse (String.ofList line) with
          | error cause =>
              rw [readLines_malformed filled result]
              refine iff_of_false nofun ?_
              rintro ⟨_, -, completes⟩
              exact not_completes_of_malformed filled result completes
          | ok p =>
              simp only [completes_declared_iff result number]
              by_cases accepted : keepRepeated = false → firstLine? before p.name = none
              · have stillApart (refused : keepRepeated = false) :
                    (names (before ++ [⟨number, p⟩])).Nodup :=
                  nodup_names_append_iff.mpr ⟨apart refused, accepted refused⟩
                rw [readLines_declared result accepted, ih stillApart]
                constructor
                · rintro ⟨others, rfl, completes⟩
                  exact ⟨p :: others, by simp, others, rfl, completes⟩
                · rintro ⟨_, rfl, others, rfl, completes⟩
                  exact ⟨others, by simp, completes⟩
              · obtain ⟨rfl, found⟩ := Classical.not_imp.mp accepted
                obtain ⟨first, isFirst⟩ := Option.ne_none_iff_exists'.mp found
                rw [readLines_repeated result isFirst]
                refine iff_of_false nofun ?_
                rintro ⟨_, -, others, -, completes⟩
                exact found (nodup_names_append_iff.mp completes.apart_before).2

/-! ### Reading up to a fault -/

section Faults

variable {keepRepeated : Bool} {lines : List (List Char)} {n : Nat} {before : List Entry}

/-- Entries tell where each name was first declared among the first lines. -/
def Remembers (lines : List (List Char)) (n : Nat) (before : List Entry) : Prop :=
  ∀ name,
    (firstLine? before name = none → ∀ j < n, ∀ p, Declares lines j p → p.name ≠ name) ∧
      ∀ number, firstLine? before name = some number →
        ∃ first < n, number = first + 1 ∧ FirstDeclares lines first name

theorem remembers_zero : Remembers lines 0 [] :=
  fun _ => ⟨fun _ j before => absurd before (Nat.not_lt_zero j), nofun⟩

theorem Remembers.blank (remembers : Remembers lines n before)
    (declaresNothing : ∀ p, ¬ Declares lines n p) : Remembers lines (n + 1) before := by
  intro name
  obtain ⟨missing, found⟩ := remembers name
  constructor
  · intro none j earlier p declares
    rcases Nat.lt_succ_iff_lt_or_eq.mp earlier with before | rfl
    · exact missing none j before p declares
    · exact absurd declares (declaresNothing p)
  · intro number some
    obtain ⟨first, before, isNumber, isFirst⟩ := found number some
    exact ⟨first, Nat.lt_succ_of_lt before, isNumber, isFirst⟩

theorem Remembers.declared (remembers : Remembers lines n before) {p : Prototype}
    (declares : Declares lines n p) : Remembers lines (n + 1) (before ++ [⟨n + 1, p⟩]) := by
  intro name
  obtain ⟨missing, found⟩ := remembers name
  rw [firstLine?_append]
  cases known : firstLine? before name with
  | some number =>
      obtain ⟨first, earlier, isNumber, isFirst⟩ := found number known
      refine ⟨nofun, ?_⟩
      rintro _ ⟨rfl⟩
      exact ⟨first, Nat.lt_succ_of_lt earlier, isNumber, isFirst⟩
  | none =>
      have unknown := missing known
      by_cases same : p.name = name
      · rw [if_pos same]
        refine ⟨nofun, ?_⟩
        rintro _ ⟨rfl⟩
        exact ⟨n, Nat.lt_succ_self n, rfl, ⟨p, declares, same⟩, unknown⟩
      · rw [if_neg same]
        refine ⟨?_, nofun⟩
        intro _ j earlier q alsoDeclares
        rcases Nat.lt_succ_iff_lt_or_eq.mp earlier with before | rfl
        · exact unknown j before q alsoDeclares
        · exact alsoDeclares.unique declares ▸ same

/-- A line that is read without a fault does not offend. -/
theorem not_offends_of_declared (remembers : Remembers lines n before) {p : Prototype}
    (declares : Declares lines n p)
    (accepted : keepRepeated = false → firstLine? before p.name = none) (fault : ListingFault) :
    ¬ Offends keepRepeated lines n fault := by
  intro offends
  cases offends with
  | malformed isLine filled failed =>
      cases failed.symm.trans (declares.parse_eq isLine)
  | repeated refused alsoDeclares first earlier =>
      obtain rfl := declares.unique alsoDeclares
      obtain ⟨⟨q, isDeclared, sameName⟩, -⟩ := first
      exact (remembers p.name).1 (accepted refused) _ earlier q isDeclared sameName

theorem not_offends_of_blank {line : List Char} (isLine : lines[n]? = some line)
    (blank : isFilled line = false) (fault : ListingFault) :
    ¬ Offends keepRepeated lines n fault := by
  intro offends
  cases offends with
  | malformed isOther filled failed =>
      obtain rfl := Option.some.inj (isLine.symm.trans isOther)
      cases blank.symm.trans filled
  | repeated refused declares first earlier =>
      cases blank.symm.trans (isFilled_of_parse (declares.parse_eq isLine))

/-- What a reading says of the offences among the lines. -/
def Reports (keepRepeated : Bool) (lines : List (List Char)) : Option ListingFault → Prop
  | none => ∀ i fault, ¬ Offends keepRepeated lines i fault
  | some fault => FirstOffends keepRepeated lines fault

theorem readLines_reports {rest : List (List Char)} (left : lines.drop n = rest)
    (remembers : Remembers lines n before)
    (clean : ∀ j < n, ∀ fault, ¬ Offends keepRepeated lines j fault) :
    Reports keepRepeated lines (readLines keepRepeated before (n + 1) rest).fault := by
  induction rest generalizing n before with
  | nil =>
      -- Offences are on lines, and all lines have been read.
      intro i fault offends
      have beyond : lines.length ≤ n := List.drop_eq_nil_iff.mp left
      have isLine : i < lines.length := offends.lt_length
      exact clean i (Nat.lt_of_lt_of_le isLine beyond) fault offends
  | cons line rest ih =>
      have isLine : lines[n]? = some line := by rw [← List.head?_drop, left]; rfl
      have further : lines.drop (n + 1) = rest := by rw [← List.tail_drop, left]; rfl
      have extended (harmless : ∀ fault, ¬ Offends keepRepeated lines n fault) :
          ∀ j < n + 1, ∀ fault, ¬ Offends keepRepeated lines j fault := by
        intro j earlier
        rcases Nat.lt_succ_iff_lt_or_eq.mp earlier with before | rfl
        · exact clean j before
        · exact harmless
      cases filled : isFilled line with
      | false =>
          have declaresNothing (p : Prototype) : ¬ Declares lines n p := by
            intro declares
            cases filled.symm.trans (isFilled_of_parse (declares.parse_eq isLine))
          rw [readLines_blank filled]
          exact ih further (remembers.blank declaresNothing)
            (extended (not_offends_of_blank isLine filled))
      | true =>
          cases result : parse (String.ofList line) with
          | error cause =>
              rw [readLines_malformed filled result]
              exact ⟨n, .malformed isLine filled result, clean⟩
          | ok p =>
              have declares : Declares lines n p := ⟨line, isLine, result⟩
              by_cases accepted : keepRepeated = false → firstLine? before p.name = none
              · rw [readLines_declared result accepted]
                exact ih further (remembers.declared declares)
                  (extended (not_offends_of_declared remembers declares accepted))
              · obtain ⟨rfl, found⟩ := Classical.not_imp.mp accepted
                obtain ⟨number, isNumber⟩ := Option.ne_none_iff_exists'.mp found
                obtain ⟨first, earlier, rfl, isFirst⟩ := (remembers p.name).2 number isNumber
                rw [readLines_repeated result isNumber]
                exact ⟨n, .repeated rfl declares isFirst earlier, clean⟩

end Faults

theorem withoutMark_of_head? {cs : List Char} (unmarked : cs.head? ≠ some '\uFEFF') :
    withoutMark cs = cs := by
  unfold withoutMark
  split
  · exact absurd rfl unmarked
  · rfl

end Listing

/-! ## Listings -/

section Results

variable (keepRepeated : Bool) (text : String)

/-- The lines of a text behind its byte order mark. -/
def listingLines (text : String) : List (List Char) :=
  lines (Listing.withoutMark text.toList)

theorem parseListing_eq_ok_iff {ps : List Prototype} :
    parseListing keepRepeated text = .ok ps ↔
      List.Forall₂ (fun line p => parse (String.ofList line) = .ok p)
          ((listingLines text).filter isFilled) ps ∧
        (keepRepeated = false → (ps.map Prototype.name).Nodup) := by
  have apart : keepRepeated = false → (Listing.names []).Nodup := fun _ => .nil
  rw [parseListing, Listing.read, Listing.readLines_eq_ok_iff apart]
  constructor
  · rintro ⟨_, rfl, parses, namesApart⟩
    exact ⟨parses, namesApart⟩
  · rintro ⟨parses, namesApart⟩
    exact ⟨ps, rfl, parses, namesApart⟩

theorem Listing.read_reports :
    Reports keepRepeated (listingLines text) (read keepRepeated text).fault :=
  readLines_reports List.drop_zero remembers_zero
    fun j before => absurd before (Nat.not_lt_zero j)

theorem parseListing_eq_error_iff {fault : ListingFault} :
    parseListing keepRepeated text = .error fault ↔
      FirstOffends keepRepeated (listingLines text) fault := by
  have reports := Listing.read_reports keepRepeated text
  rw [parseListing, Listing.prototypes]
  cases found : (Listing.read keepRepeated text).fault with
  | none =>
      rw [found] at reports
      constructor
      · nofun
      · rintro ⟨i, offends, -⟩
        exact (reports i fault offends).elim
  | some other =>
      rw [found] at reports
      constructor
      · rintro ⟨rfl⟩
        exact reports
      · intro offends
        rw [FirstOffends.unique reports offends]

end Results

/-- Keeping repeated names makes a difference only for a listing that was refused for one. -/
theorem parseListing_true_ne_false_iff (text : String) :
    parseListing true text ≠ parseListing false text ↔
      ∃ repetition, parseListing false text = .error (.repeated repetition) := by
  constructor
  · intro differ
    cases result : parseListing false text with
    | ok ps =>
        have parses := ((parseListing_eq_ok_iff false text).mp result).1
        have kept := (parseListing_eq_ok_iff true text).mpr ⟨parses, nofun⟩
        exact absurd (kept.trans result.symm) differ
    | error fault =>
        cases fault with
        | repeated repetition => exact ⟨repetition, rfl⟩
        | malformed number line cause =>
            obtain ⟨i, offends, clean⟩ := (parseListing_eq_error_iff false text).mp result
            have still : Offends true (listingLines text) i (.malformed number line cause) := by
              cases offends with
              | malformed isLine filled failed => exact .malformed isLine filled failed
            have kept := (parseListing_eq_error_iff true text).mpr
              ⟨i, still, fun j before other sooner => clean j before other sooner.of_keepRepeated⟩
            exact absurd (kept.trans result.symm) differ
  · rintro ⟨repetition, refused⟩ same
    obtain ⟨i, offends, -⟩ := (parseListing_eq_error_iff true text).mp (same.trans refused)
    cases offends with
    | repeated kept => cases kept

/-- A listing is read to its end, with the prototypes of the lines that are not blank, exactly when
each of these lines holds one and, unless repeated names are kept, their names differ.  Otherwise
the fault is that of the first line that offends, and never that a line is blank. -/
theorem parseListing_reads_or_reports (keepRepeated : Bool) (text : String) :
    (∀ ps, parseListing keepRepeated text = .ok ps ↔
      List.Forall₂ (fun line p => parse (String.ofList line) = .ok p)
          ((listingLines text).filter isFilled) ps ∧
        (keepRepeated = false → (ps.map Prototype.name).Nodup)) ∧
      (∀ fault, parseListing keepRepeated text = .error fault ↔
        FirstOffends keepRepeated (listingLines text) fault) ∧
      (∀ number line cause,
        parseListing keepRepeated text = .error (.malformed number line cause) →
          cause ≠ .empty) ∧
      (parseListing true text ≠ parseListing false text ↔
        ∃ repetition, parseListing false text = .error (.repeated repetition)) := by
  refine ⟨fun _ => parseListing_eq_ok_iff keepRepeated text,
    fun _ => parseListing_eq_error_iff keepRepeated text, ?_, parseListing_true_ne_false_iff text⟩
  rintro number line _ failed rfl
  obtain ⟨i, offends, -⟩ := (parseListing_eq_error_iff keepRepeated text).mp failed
  cases offends with
  | malformed isLine filled unread =>
      rw [parse_ofList, parseTrimmed_eq_empty_iff, ← isFilled_eq_false_iff] at unread
      cases filled.symm.trans unread

theorem parseListing_repeated_reads_or_reports :
    parseListing false "\uFEFF\r\nint f()\r\n \t\nvoid f(int a)\nint" =
        .error (.repeated ⟨"f", 2, 4⟩) ∧
      FirstOffends false (listingLines "\uFEFF\r\nint f()\r\n \t\nvoid f(int a)\nint")
        (.repeated ⟨"f", 2, 4⟩) ∧
      parseListing true "\uFEFF\r\nint f()\r\n \t\nvoid f(int a)\nint" =
        .error (.malformed 5 "int" .missingOpenParenthesis) ∧
      FirstOffends true (listingLines "\uFEFF\r\nint f()\r\n \t\nvoid f(int a)\nint")
        (.malformed 5 "int" .missingOpenParenthesis) := by
  have refused : parseListing false "\uFEFF\r\nint f()\r\n \t\nvoid f(int a)\nint" =
      .error (.repeated ⟨"f", 2, 4⟩) := rfl
  have kept : parseListing true "\uFEFF\r\nint f()\r\n \t\nvoid f(int a)\nint" =
      .error (.malformed 5 "int" .missingOpenParenthesis) := rfl
  exact ⟨refused, ((parseListing_reads_or_reports false _).2.1 _).mp refused, kept,
    ((parseListing_reads_or_reports true _).2.1 _).mp kept⟩

end Prototype
end BindingGen
