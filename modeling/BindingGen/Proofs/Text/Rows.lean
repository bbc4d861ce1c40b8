import BindingGen.Proofs.Text.Words

/-!
# Rows of a text

The rows of a text are the pieces between its line feeds.  Where two texts meet, the last row of the
first and the first row of the second become one, and all other rows stay.  Putting a carriage
return in front of every line feed changes nothing about the rows but blanks at their ends.
-/

namespace BindingGen
namespace Text

/-- The pieces between the line feeds of a text. -/
def rows (cs : List Char) : List (List Char) :=
  splitWhere (· == '\n') cs

theorem rows_ne_nil (cs : List Char) : rows cs ≠ [] :=
  splitWhere_ne_nil _ cs

@[simp]
theorem rows_feed_cons (cs : List Char) : rows ('\n' :: cs) = [] :: rows cs :=
  splitWhere_cons_of_separator (p := (· == '\n')) rfl cs

theorem rows_cons_of_ne {c : Char} (noFeed : c ≠ '\n') {cs row : List Char}
    {others : List (List Char)} (cut : rows cs = row :: others) :
    rows (c :: cs) = (c :: row) :: others :=
  splitWhere_cons_of_not_separator (p := (· == '\n')) (by simpa using noFeed) cut

@[simp]
theorem rows_append_feed (first second : List Char) :
    rows (first ++ '\n' :: second) = rows first ++ rows second :=
  splitWhere_append_separator (p := (· == '\n')) rfl first second

@[simp]
theorem rows_of_not_mem {cs : List Char} (noFeed : '\n' ∉ cs) : rows cs = [cs] :=
  splitWhere_eq_singleton fun _ member => by simpa using ne_of_mem_of_not_mem member noFeed

@[simp]
theorem length_rows (cs : List Char) : (rows cs).length = cs.count '\n' + 1 := by
  induction cs with
  | nil => rfl
  | cons c cs ih =>
      by_cases isFeed : c = '\n'
      · rw [isFeed, rows_feed_cons, List.length_cons, ih, List.count_cons_self]
      · obtain ⟨row, others, cut⟩ := List.exists_cons_of_ne_nil (rows_ne_nil cs)
        rw [cut] at ih
        rw [rows_cons_of_ne isFeed cut, List.count_cons_of_ne isFeed, ← ih]
        rfl

/-! ## Where two texts meet -/

/-- What follows a text continues its last row. -/
theorem exists_last_row (cs : List Char) :
    ∃ start row front, cs = start ++ row ∧ '\n' ∉ row ∧
      ∀ rest, rows (cs ++ rest) = front ++ rows (row ++ rest) := by
  by_cases hasFeed : '\n' ∈ cs
  · obtain ⟨reversed, before, shape, noFeed⟩ :=
      List.eq_append_cons_of_mem (List.mem_reverse.mpr hasFeed)
    obtain rfl : cs = before.reverse ++ '\n' :: reversed.reverse := by
      simpa using congrArg List.reverse shape
    refine ⟨before.reverse ++ ['\n'], reversed.reverse, rows before.reverse, by simp,
      by simpa using noFeed, fun rest => ?_⟩
    rw [List.append_assoc, List.cons_append, rows_append_feed]
  · exact ⟨[], cs, [], rfl, hasFeed, fun rest => rfl⟩

/-- What precedes a text begins its first row. -/
theorem exists_first_row (cs : List Char) :
    ∃ row stop others, cs = row ++ stop ∧ '\n' ∉ row ∧
      ∀ head, '\n' ∉ head → rows (head ++ cs) = (head ++ row) :: others := by
  by_cases hasFeed : '\n' ∈ cs
  · obtain ⟨row, after, rfl, noFeed⟩ := List.eq_append_cons_of_mem hasFeed
    refine ⟨row, '\n' :: after, rows after, rfl, noFeed, fun head noneInHead => ?_⟩
    rw [← List.append_assoc, rows_append_feed,
      rows_of_not_mem (List.not_mem_append noneInHead noFeed)]
    rfl
  · refine ⟨cs, [], [], by simp, hasFeed, fun head noneInHead => ?_⟩
    exact rows_of_not_mem (List.not_mem_append noneInHead hasFeed)

/-! ## Carriage returns in front of line feeds -/

/-- A text with a carriage return put in front of every line feed. -/
def withReturns (cs : List Char) : List Char :=
  cs.flatMap fun c => if c = '\n' then ['\r', '\n'] else [c]

@[simp]
theorem withReturns_append (first second : List Char) :
    withReturns (first ++ second) = withReturns first ++ withReturns second :=
  List.flatMap_append

@[simp]
theorem withReturns_feed_cons (cs : List Char) :
    withReturns ('\n' :: cs) = '\r' :: '\n' :: withReturns cs :=
  rfl

@[simp]
theorem withReturns_cons_of_ne {c : Char} (noFeed : c ≠ '\n') (cs : List Char) :
    withReturns (c :: cs) = c :: withReturns cs := by
  simp [withReturns, noFeed]

theorem withReturns_of_not_mem {cs : List Char} (noFeed : '\n' ∉ cs) : withReturns cs = cs := by
  induction cs with
  | nil => rfl
  | cons c cs ih =>
      rw [List.mem_cons, not_or] at noFeed
      rw [withReturns_cons_of_ne (Ne.symm noFeed.1), ih noFeed.2]

/-- Each row but the last ends in a carriage return. -/
theorem exists_rows_withReturns (cs : List Char) :
    ∃ front last, rows cs = front ++ [last] ∧
      rows (withReturns cs) = front.map (· ++ ['\r']) ++ [last] := by
  induction cs with
  | nil => exact ⟨[], [], rfl, rfl⟩
  | cons c cs ih =>
      obtain ⟨front, last, cut, converted⟩ := ih
      by_cases isFeed : c = '\n'
      · subst isFeed
        refine ⟨[] :: front, last, ?_, ?_⟩
        · rw [rows_feed_cons, cut, List.cons_append]
        · rw [withReturns_feed_cons, rows_cons_of_ne (by decide) (rows_feed_cons _), converted]
          rfl
      · rw [withReturns_cons_of_ne isFeed]
        cases front with
        | nil =>
            exact ⟨[], c :: last, rows_cons_of_ne isFeed cut, rows_cons_of_ne isFeed converted⟩
        | cons row front =>
            exact ⟨(c :: row) :: front, last, rows_cons_of_ne isFeed cut,
              rows_cons_of_ne isFeed converted⟩

@[simp]
theorem map_trim_rows_withReturns (cs : List Char) :
    (rows (withReturns cs)).map trim = (rows cs).map trim := by
  obtain ⟨front, last, cut, converted⟩ := exists_rows_withReturns cs
  have ended (row : List Char) : trim (row ++ ['\r']) = trim row :=
    trim_append_blanks (by simp [isBlank]) row
  rw [cut, converted]
  simp [Function.comp_def, ended]

/-! ### Pairs -/

/-- Carriage returns and line feeds occur in pairs only. -/
def BreaksPaired (cs : List Char) : Prop :=
  ∀ before c after, cs = before ++ c :: after →
    (c = '\n' → before.getLast? = some '\r') ∧ (c = '\r' → after.head? = some '\n')

theorem breaksPaired_nil : BreaksPaired [] := by
  intro before c after shape
  simp at shape

theorem breaksPaired_pair : BreaksPaired ['\r', '\n'] := by
  intro before c after shape
  match before with
  | [] =>
      obtain ⟨rfl, rfl⟩ := List.cons.inj shape
      exact ⟨nofun, fun _ => rfl⟩
  | [_] =>
      obtain ⟨rfl, rest⟩ := List.cons.inj shape
      obtain ⟨rfl, rfl⟩ := List.cons.inj rest
      exact ⟨fun _ => rfl, nofun⟩
  | _ :: _ :: _ => simp at shape

theorem breaksPaired_singleton {c : Char} (unbroken : isLineBreak c = false) :
    BreaksPaired [c] := by
  intro before d after shape
  obtain ⟨noReturn, noFeed⟩ := isLineBreak_eq_false_iff.mp unbroken
  obtain rfl : d = c := by
    have member : d ∈ [c] := by simp [shape]
    simpa using member
  exact ⟨fun isFeed => absurd isFeed noFeed, fun isReturn => absurd isReturn noReturn⟩

theorem BreaksPaired.append {first second : List Char} (paired : BreaksPaired first)
    (alsoPaired : BreaksPaired second) : BreaksPaired (first ++ second) := by
  intro before c after shape
  rcases List.append_eq_append_iff.mp shape with ⟨rest, rfl, inSecond⟩ | ⟨rest, inFirst, shared⟩
  · obtain ⟨feed, followed⟩ := alsoPaired rest c after inSecond
    refine ⟨fun isFeed => ?_, followed⟩
    rw [List.getLast?_append, feed isFeed]
    rfl
  · cases rest with
    | nil =>
        obtain ⟨feed, followed⟩ := alsoPaired [] c after shared.symm
        refine ⟨fun isFeed => ?_, followed⟩
        cases feed isFeed
    | cons d rest =>
        rw [List.cons_append] at shared
        obtain ⟨rfl, rfl⟩ := List.cons.inj shared
        obtain ⟨feed, followed⟩ := paired before c rest inFirst
        refine ⟨feed, fun isReturn => ?_⟩
        rw [List.head?_append, followed isReturn]
        rfl

/-- A text without carriage returns of its own is left with pairs. -/
theorem breaksPaired_withReturns {cs : List Char} (noReturn : '\r' ∉ cs) :
    BreaksPaired (withReturns cs) := by
  induction cs with
  | nil => exact breaksPaired_nil
  | cons c cs ih =>
      rw [List.mem_cons, not_or] at noReturn
      have rest := ih noReturn.2
      by_cases isFeed : c = '\n'
      · subst isFeed
        exact breaksPaired_pair.append rest
      · have unbroken := isLineBreak_eq_false_iff.mpr ⟨Ne.symm noReturn.1, isFeed⟩
        rw [withReturns_cons_of_ne isFeed]
        exact (breaksPaired_singleton unbroken).append rest

end Text
end BindingGen
