import BindingGen.Proofs.Prototype.Rows
import Mathlib.Data.Nat.Find

/-!
# Listings put together

A listing may be continued by another behind a line feed.  Where repeated names are kept, the two
are read as if each stood alone, and only the numbers of the lines of the second are higher.  Where
they are not, a name of the first is refused at the first line of the second that declares it.
-/

namespace BindingGen
namespace Prototype

open Text

/-! ## Repeated names kept -/

theorem parseListing_true_joined (first : String) {second : String}
    (unmarked : second.toList.head? ≠ some '\uFEFF') :
    parseListing true (first ++ "\n" ++ second) =
      (parseListing true first).bind fun ps =>
        ((parseListing true second).mapError
          (ListingFault.renumber (· + (first.toList.count '\n' + 1)))).map (ps ++ ·) := by
  have agrees : ∀ i < (listingRows second).length,
      1 + i + (first.toList.count '\n' + 1) = 1 + (listingRows first).length + i := by
    intro i _
    rw [length_listingRows]
    omega
  have shifted := Listing.readLines_renumber (· + (first.toList.count '\n' + 1)) true [] agrees
  rw [List.map_nil] at shifted
  rw [parseListing_eq_rows, listingRows_joined first unmarked, Listing.readLines_append,
    parseListing_eq_rows true first, parseListing_eq_rows true second,
    ← Listing.prototypes_renumber, ← shifted]
  cases Listing.readLines true [] 1 (listingRows first) with
  | mk entries fault =>
      cases fault with
      | some fault => rfl
      | none =>
          rw [Listing.andThen, Listing.readLines_true]
          cases Listing.readLines true [] (1 + (listingRows first).length)
              (listingRows second) with
          | mk others fault =>
              cases fault with
              | some fault => rfl
              | none => simp [Listing.prototypes]

/-- Refusing repeated names adds one condition to reading a listing. -/
theorem parseListing_false_eq_ok_iff {text : String} {ps : List Prototype} :
    parseListing false text = .ok ps ↔
      parseListing true text = .ok ps ∧ (ps.map Prototype.name).Nodup := by
  rw [parseListing_eq_ok_iff, parseListing_eq_ok_iff]
  constructor
  · rintro ⟨parses, apart⟩
    exact ⟨⟨parses, nofun⟩, apart rfl⟩
  · rintro ⟨⟨parses, -⟩, apart⟩
    exact ⟨parses, fun _ => apart⟩

/-! ## Repeated names refused -/

theorem not_offends_of_parseListing {keepRepeated : Bool} {text : String} {ps : List Prototype}
    (read : parseListing keepRepeated text = .ok ps) (i : Nat) (fault : ListingFault) :
    ¬ Offends keepRepeated (listingLines text) i fault := by
  have reports := Listing.read_reports keepRepeated text
  rw [parseListing, Listing.prototypes] at read
  cases found : (Listing.read keepRepeated text).fault with
  | none =>
      rw [found] at reports
      exact reports i fault
  | some other =>
      rw [found] at read
      cases read

theorem exists_firstDeclares {lines : List (List Char)} {i : Nat} {p : Prototype}
    (declares : Declares lines i p) : ∃ first ≤ i, FirstDeclares lines first p.name := by
  classical
  have declared : ∃ j, ∃ q, Declares lines j q ∧ q.name = p.name := ⟨i, p, declares, rfl⟩
  refine ⟨Nat.find declared, Nat.find_min' declared ⟨p, declares, rfl⟩,
    Nat.find_spec declared, fun j earlier q alsoDeclares same => ?_⟩
  exact Nat.find_min declared earlier ⟨q, alsoDeclares, same⟩

theorem exists_offends_of_declared_before {lines : List (List Char)} {i j : Nat}
    {p q : Prototype} (declares : Declares lines i p) (again : Declares lines j q)
    (same : p.name = q.name) (earlier : i < j) : ∃ fault, Offends false lines j fault := by
  obtain ⟨first, notLater, isFirst⟩ := exists_firstDeclares declares
  rw [same] at isFirst
  exact ⟨_, .repeated rfl again isFirst (Nat.lt_of_le_of_lt notLater earlier)⟩

/-- A listing that is read without repeated names declares none on two lines. -/
theorem not_lt_of_declares_twice {text : String} {ps : List Prototype}
    (read : parseListing false text = .ok ps) {i j : Nat} {p q : Prototype}
    (declares : Declares (listingLines text) i p) (again : Declares (listingLines text) j q)
    (same : p.name = q.name) : ¬ i < j := by
  intro earlier
  obtain ⟨fault, offends⟩ := exists_offends_of_declared_before declares again same earlier
  exact not_offends_of_parseListing read j fault offends

theorem lt_of_declares {text : String} {i : Nat} {p : Prototype}
    (declares : Declares (listingLines text) i p) : i < text.toList.count '\n' + 1 := by
  obtain ⟨line, isLine, -⟩ := declares_listingRows_iff.mpr declares
  rw [← length_listingRows]
  exact (List.getElem?_eq_some_iff.mp isLine).1

section Joined

variable {first second : String}

theorem declares_joined_iff (unmarked : second.toList.head? ≠ some '\uFEFF') {k : Nat}
    {p : Prototype} :
    Declares (listingLines (first ++ "\n" ++ second)) k p ↔
      if k < first.toList.count '\n' + 1 then Declares (listingLines first) k p
      else Declares (listingLines second) (k - (first.toList.count '\n' + 1)) p := by
  rw [← declares_listingRows_iff, ← declares_listingRows_iff, ← declares_listingRows_iff,
    listingRows_joined first unmarked, ← length_listingRows]
  unfold Declares
  rw [List.getElem?_append]
  split <;> rfl

theorem declares_joined_left (unmarked : second.toList.head? ≠ some '\uFEFF') {i : Nat}
    (inFirst : i < first.toList.count '\n' + 1) {p : Prototype} :
    Declares (listingLines (first ++ "\n" ++ second)) i p ↔
      Declares (listingLines first) i p := by
  rw [declares_joined_iff unmarked, if_pos inFirst]

theorem declares_joined_right (unmarked : second.toList.head? ≠ some '\uFEFF') (j : Nat)
    {p : Prototype} :
    Declares (listingLines (first ++ "\n" ++ second)) (first.toList.count '\n' + 1 + j) p ↔
      Declares (listingLines second) j p := by
  rw [declares_joined_iff unmarked, if_neg (by omega), Nat.add_sub_cancel_left]

end Joined

/-- The first line of `others` that declares a name of `lines`, and a line that declares this name
there. -/
structure FirstShared (lines others : List (List Char)) (i j : Nat) (name : String) : Prop where
  declared : ∃ p, Declares lines i p ∧ p.name = name
  again : ∃ q, Declares others j q ∧ q.name = name
  noneBefore : ∀ k < j, ∀ q, Declares others k q → ∀ l p, Declares lines l p → p.name ≠ q.name

section Refused

variable {first second : String} (unmarked : second.toList.head? ≠ some '\uFEFF')
  {ps qs : List Prototype} (read : parseListing false first = .ok ps)
  (alsoRead : parseListing false second = .ok qs)
include unmarked read alsoRead

theorem parseListing_true_joined_of_read :
    parseListing true (first ++ "\n" ++ second) = .ok (ps ++ qs) := by
  rw [parseListing_true_joined first unmarked, (parseListing_false_eq_ok_iff.mp read).1,
    (parseListing_false_eq_ok_iff.mp alsoRead).1]
  rfl

theorem parseListing_false_joined_eq_ok (apart : ∀ p ∈ ps, ∀ q ∈ qs, p.name ≠ q.name) :
    parseListing false (first ++ "\n" ++ second) = .ok (ps ++ qs) := by
  refine parseListing_false_eq_ok_iff.mpr
    ⟨parseListing_true_joined_of_read unmarked read alsoRead, ?_⟩
  rw [List.map_append, List.nodup_append]
  refine ⟨(parseListing_false_eq_ok_iff.mp read).2, (parseListing_false_eq_ok_iff.mp alsoRead).2,
    ?_⟩
  simpa using apart

theorem exists_firstShared (shared : ∃ p ∈ ps, ∃ q ∈ qs, p.name = q.name) :
    ∃ i j name, FirstShared (listingLines first) (listingLines second) i j name ∧
      parseListing false (first ++ "\n" ++ second) =
        .error (.repeated ⟨name, i + 1, j + 1 + (first.toList.count '\n' + 1)⟩) := by
  have kept := parseListing_true_joined_of_read unmarked read alsoRead
  have differ : parseListing true (first ++ "\n" ++ second) ≠
      parseListing false (first ++ "\n" ++ second) := by
    intro same
    have apart := (parseListing_false_eq_ok_iff.mp (same.symm.trans kept)).2
    obtain ⟨p, inFirst, q, inSecond, sameName⟩ := shared
    rw [List.map_append, List.nodup_append] at apart
    exact apart.2.2 _ (List.mem_map_of_mem inFirst) _ (List.mem_map_of_mem inSecond) sameName
  obtain ⟨repetition, refused⟩ := (parseListing_true_ne_false_iff _).mp differ
  obtain ⟨k, offends, clean⟩ := (parseListing_eq_error_iff false _).mp refused
  cases offends with
  | @repeated q i _ declares isFirst earlier =>
      obtain ⟨⟨p, alsoDeclares, sameName⟩, -⟩ := isFirst
      -- Neither text declares a name twice, so the two lines are in different texts.
      have inSecond : first.toList.count '\n' + 1 ≤ k := by
        by_contra inFirst
        rw [Nat.not_le] at inFirst
        exact not_lt_of_declares_twice read
          ((declares_joined_left unmarked (Nat.lt_trans earlier inFirst)).mp alsoDeclares)
          ((declares_joined_left unmarked inFirst).mp declares) sameName earlier
      obtain ⟨j, rfl⟩ := Nat.exists_eq_add_of_le inSecond
      rw [declares_joined_right unmarked] at declares
      have inFirst : i < first.toList.count '\n' + 1 := by
        by_contra beyond
        obtain ⟨l, rfl⟩ := Nat.exists_eq_add_of_le (Nat.not_lt.mp beyond)
        exact not_lt_of_declares_twice alsoRead ((declares_joined_right unmarked l).mp alsoDeclares)
          declares sameName (Nat.lt_of_add_lt_add_left earlier)
      refine ⟨i, j, q.name,
        ⟨⟨p, (declares_joined_left unmarked inFirst).mp alsoDeclares, sameName⟩,
          ⟨q, declares, rfl⟩, ?_⟩, ?_⟩
      · intro l before other declaresOther m known declaresKnown same
        have bound := lt_of_declares declaresKnown
        obtain ⟨fault, offends⟩ := exists_offends_of_declared_before
          ((declares_joined_left unmarked bound).mpr declaresKnown)
          ((declares_joined_right unmarked l).mpr declaresOther) same (by omega)
        exact clean _ (Nat.add_lt_add_left before _) fault offends
      · rw [refused, Nat.add_comm (j + 1), ← Nat.add_assoc]

end Refused

/-- Two texts with a line feed between them are read in turn.  Where repeated names are kept, the
first fault of either is reported, with the number its line has in the whole.  Where they are not,
two listings without a common name are one, and otherwise the first line of the second that declares
a name of the first is refused. -/
theorem joined_listings_are_read_in_turn (first second : String)
    (unmarked : second.toList.head? ≠ some '\uFEFF') :
    parseListing true (first ++ "\n" ++ second) =
        (parseListing true first).bind (fun ps =>
          ((parseListing true second).mapError
            (ListingFault.renumber (· + (first.toList.count '\n' + 1)))).map (ps ++ ·)) ∧
      ∀ ps qs, parseListing false first = .ok ps → parseListing false second = .ok qs →
        ((∀ p ∈ ps, ∀ q ∈ qs, p.name ≠ q.name) →
          parseListing false (first ++ "\n" ++ second) = .ok (ps ++ qs)) ∧
        ((∃ p ∈ ps, ∃ q ∈ qs, p.name = q.name) →
          ∃ i j name, FirstShared (listingLines first) (listingLines second) i j name ∧
            parseListing false (first ++ "\n" ++ second) =
              .error (.repeated ⟨name, i + 1, j + 1 + (first.toList.count '\n' + 1)⟩)) :=
  ⟨parseListing_true_joined first unmarked, fun _ _ read alsoRead =>
    ⟨parseListing_false_joined_eq_ok unmarked read alsoRead,
      exists_firstShared unmarked read alsoRead⟩⟩

theorem joined_listings_sharing_names_are_read_in_turn :
    "int h()\r\nvoid g(int a)\nint f()".toList.head? ≠ some '\uFEFF' ∧
      parseListing true ("\uFEFFint f()\r\n\nint g()" ++ "\n" ++ " \nint") =
        .error (.malformed 5 "int" .missingOpenParenthesis) ∧
      parseListing false "\uFEFFint f()\r\n\nint g()" =
        .ok [⟨"f", [], "int"⟩, ⟨"g", [], "int"⟩] ∧
      parseListing false "int h()\r\nvoid g(int a)\nint f()" =
        .ok [⟨"h", [], "int"⟩, ⟨"g", ["int a"], "void"⟩, ⟨"f", [], "int"⟩] ∧
      parseListing false
          ("\uFEFFint f()\r\n\nint g()" ++ "\n" ++ "int h()\r\nvoid g(int a)\nint f()") =
        .error (.repeated ⟨"g", 3, 5⟩) ∧
      (∃ i j name,
        FirstShared (listingLines "\uFEFFint f()\r\n\nint g()")
            (listingLines "int h()\r\nvoid g(int a)\nint f()") i j name ∧
          parseListing false
              ("\uFEFFint f()\r\n\nint g()" ++ "\n" ++ "int h()\r\nvoid g(int a)\nint f()") =
            .error (.repeated ⟨name, i + 1, j + 1 + 3⟩)) ∧
      parseListing false ("\uFEFFint f()\r\n\nint g()" ++ "\n" ++ "int h()") =
        .ok [⟨"f", [], "int"⟩, ⟨"g", [], "int"⟩, ⟨"h", [], "int"⟩] := by
  have unmarked : "int h()\r\nvoid g(int a)\nint f()".toList.head? ≠ some '\uFEFF' := by decide
  have first : parseListing false "\uFEFFint f()\r\n\nint g()" =
      .ok [⟨"f", [], "int"⟩, ⟨"g", [], "int"⟩] := rfl
  have second : parseListing false "int h()\r\nvoid g(int a)\nint f()" =
      .ok [⟨"h", [], "int"⟩, ⟨"g", ["int a"], "void"⟩, ⟨"f", [], "int"⟩] := rfl
  have alone : parseListing false "int h()" = .ok [⟨"h", [], "int"⟩] := rfl
  refine ⟨unmarked, ?_, first, second, rfl, ?_, ?_⟩
  · rw [(joined_listings_are_read_in_turn _ _ (by decide)).1]
    rfl
  · exact ((joined_listings_are_read_in_turn _ _ unmarked).2 _ _ first second).2
      ⟨⟨"g", [], "int"⟩, by simp, ⟨"g", ["int a"], "void"⟩, by simp, rfl⟩
  · exact ((joined_listings_are_read_in_turn _ _ (by decide)).2 _ _ first alone).1 (by decide)

end Prototype
end BindingGen
