import BindingGen.Text.Offset

/-!
# Cutting a text at byte offsets

An offset counts the bytes in front of a place of a text.  A slice between the offsets of two
places holds what stands between them, and a search gives the offset of the place in front of the
character that it finds.
-/

namespace BindingGen
namespace Text

@[simp]
theorem byteLength_append (first second : List Char) :
    byteLength (first ++ second) = byteLength first + byteLength second := by
  induction first with
  | nil => simp [byteLength]
  | cons c first ih =>
      simp only [List.cons_append, byteLength, ih]
      omega

@[simp]
theorem dropBytes_append (first second : List Char) :
    dropBytes (byteLength first) (first ++ second) = second := by
  induction first with
  | nil => cases second <;> rfl
  | cons c first ih =>
      have positive := c.utf8Size_pos
      have notAtStart : c.utf8Size + byteLength first ≠ 0 := by omega
      rw [byteLength, List.cons_append, dropBytes, if_neg notAtStart, Nat.add_sub_cancel_left, ih]

@[simp]
theorem takeBytes_append (first second : List Char) :
    takeBytes (byteLength first) (first ++ second) = first := by
  induction first with
  | nil => cases second <;> rfl
  | cons c first ih =>
      have positive := c.utf8Size_pos
      have notAtStart : c.utf8Size + byteLength first ≠ 0 := by omega
      rw [byteLength, List.cons_append, takeBytes, if_neg notAtStart, Nat.add_sub_cancel_left, ih]

@[simp]
theorem slice_append (before middle after : List Char) :
    slice (before ++ (middle ++ after)) (byteLength before)
      (byteLength before + byteLength middle) = middle := by
  rw [slice, dropBytes_append, Nat.add_sub_cancel_left, takeBytes_append]

@[simp]
theorem slice_zero_append (first second : List Char) :
    slice (first ++ second) 0 (byteLength first) = first := by
  simpa [byteLength] using slice_append [] first second

theorem slice_append_end (first second : List Char) :
    slice (first ++ second) (byteLength first) (byteLength (first ++ second)) = second := by
  simpa using slice_append first second []

/-! ## Searching -/

variable {p : Char → Bool}

theorem firstOffset?_append_cons {before : List Char} (skipped : ∀ c ∈ before, p c = false)
    {c : Char} (found : p c = true) (after : List Char) :
    firstOffset? p (before ++ c :: after) = some (byteLength before) := by
  induction before with
  | nil => simp [firstOffset?, found, byteLength]
  | cons d before ih =>
      have further := ih fun e member => skipped e (List.mem_cons_of_mem d member)
      rw [List.cons_append, firstOffset?, skipped d List.mem_cons_self, further, byteLength]
      simp [Nat.add_comm]

@[simp]
theorem firstOffset?_eq_none_iff {cs : List Char} :
    firstOffset? p cs = none ↔ ∀ c ∈ cs, p c = false := by
  induction cs with
  | nil => simp [firstOffset?]
  | cons c cs ih => cases found : p c <;> simp [firstOffset?, found, ih]

theorem mem_of_firstOffset?_eq_some {c : Char} {cs : List Char} {offset : Nat}
    (found : firstOffset? (· == c) cs = some offset) : c ∈ cs := by
  apply Decidable.byContradiction
  intro absent
  have nowhere : firstOffset? (· == c) cs = none := by
    refine firstOffset?_eq_none_iff.mpr fun d member => beq_eq_false_iff_ne.mpr ?_
    rintro rfl
    exact absent member
  rw [nowhere] at found
  cases found

@[simp]
theorem lastOffset?_eq_none_iff {cs : List Char} :
    lastOffset? p cs = none ↔ ∀ c ∈ cs, p c = false := by
  induction cs with
  | nil => simp [lastOffset?]
  | cons c cs ih =>
      cases later : lastOffset? p cs with
      | none =>
          have skipped := ih.mp later
          cases found : p c with
          | true => simp [lastOffset?, later, found]
          | false => simpa [lastOffset?, later, found] using skipped
      | some offset =>
          have notNone : ¬ ∀ d ∈ cs, p d = false := by
            intro skipped
            rw [ih.mpr skipped] at later
            cases later
          simp [lastOffset?, later, notNone]

theorem lastOffset?_append_cons {after : List Char} (skipped : ∀ c ∈ after, p c = false)
    {c : Char} (found : p c = true) (before : List Char) :
    lastOffset? p (before ++ c :: after) = some (byteLength before) := by
  induction before with
  | nil => simp [lastOffset?, lastOffset?_eq_none_iff.mpr skipped, found, byteLength]
  | cons d before ih =>
      rw [List.cons_append, lastOffset?, ih, byteLength]
      simp [Nat.add_comm]

end Text
end BindingGen
