import BindingGen.Proofs.Text.Offset

/-!
# Cuts within their texts

A cut is in bounds when its two offsets are in order, not behind the end of its text, and between
characters.  Only then is there a piece to take; whoever takes a cut that is out of bounds stops
there.
-/

namespace BindingGen
namespace Text

/-! ## Boundaries -/

theorem isBoundary_append (before after : List Char) :
    IsBoundary (before ++ after) (byteLength before) :=
  ⟨before, after, rfl, rfl⟩

@[simp]
theorem isBoundary_nil_iff {offset : Nat} : IsBoundary [] offset ↔ offset = 0 := by
  constructor
  · rintro ⟨before, after, whole, rfl⟩
    rw [(List.append_eq_nil_iff.mp whole.symm).1]
    rfl
  · rintro rfl
    exact isBoundary_append [] []

@[simp]
theorem isBoundary_cons_iff {c : Char} {cs : List Char} {offset : Nat} :
    IsBoundary (c :: cs) offset ↔
      offset = 0 ∨ c.utf8Size ≤ offset ∧ IsBoundary cs (offset - c.utf8Size) := by
  constructor
  · rintro ⟨before, after, whole, rfl⟩
    cases before with
    | nil => exact .inl rfl
    | cons d before =>
        obtain ⟨rfl, rfl⟩ := List.cons.inj whole
        right
        rw [byteLength, Nat.add_sub_cancel_left]
        exact ⟨Nat.le_add_right _ _, isBoundary_append before after⟩
  · rintro (rfl | ⟨fits, before, after, rfl, length⟩)
    · exact isBoundary_append [] (c :: cs)
    · refine ⟨c :: before, after, rfl, ?_⟩
      rw [byteLength, length]
      omega

instance decidableIsBoundary : (cs : List Char) → (offset : Nat) → Decidable (IsBoundary cs offset)
  | [], _ => decidable_of_iff _ isBoundary_nil_iff.symm
  | c :: cs, offset =>
    have := decidableIsBoundary cs (offset - c.utf8Size)
    decidable_of_iff _ isBoundary_cons_iff.symm

/-! ## Cuts -/

namespace Cut

structure InBounds (cut : Cut) : Prop where
  ordered : cut.start ≤ cut.stop
  within : cut.stop ≤ byteLength cut.text
  starts : IsBoundary cut.text cut.start
  stops : IsBoundary cut.text cut.stop

theorem inBounds_iff {cut : Cut} :
    cut.InBounds ↔ cut.start ≤ cut.stop ∧ cut.stop ≤ byteLength cut.text ∧
      IsBoundary cut.text cut.start ∧ IsBoundary cut.text cut.stop :=
  ⟨fun ⟨ordered, within, starts, stops⟩ => ⟨ordered, within, starts, stops⟩,
    fun ⟨ordered, within, starts, stops⟩ => ⟨ordered, within, starts, stops⟩⟩

instance decidableInBounds (cut : Cut) : Decidable cut.InBounds :=
  decidable_of_iff _ inBounds_iff.symm

/-- The piece of a cut in bounds; any other cut is the error. -/
def take (cut : Cut) : Except Cut (List Char) :=
  if cut.InBounds then .ok (slice cut.text cut.start cut.stop) else .error cut

theorem take_of_inBounds {cut : Cut} (inBounds : cut.InBounds) :
    cut.take = .ok (slice cut.text cut.start cut.stop) :=
  if_pos inBounds

@[simp]
theorem exists_take_eq_ok_iff {cut : Cut} : (∃ piece, cut.take = .ok piece) ↔ cut.InBounds := by
  constructor
  · rintro ⟨piece, taken⟩
    by_cases inBounds : cut.InBounds
    · exact inBounds
    · rw [take, if_neg inBounds] at taken
      cases taken
  · exact fun inBounds => ⟨_, take_of_inBounds inBounds⟩

theorem inBounds_append (before middle after : List Char) :
    InBounds ⟨before ++ (middle ++ after), byteLength before,
      byteLength before + byteLength middle⟩ where
  ordered := Nat.le_add_right _ _
  within := by
    simp only [byteLength_append]
    omega
  starts := isBoundary_append before (middle ++ after)
  stops := by
    rw [← List.append_assoc, ← byteLength_append]
    exact isBoundary_append (before ++ middle) after

theorem inBounds_front (first second : List Char) :
    InBounds ⟨first ++ second, 0, byteLength first⟩ := by
  simpa [byteLength] using inBounds_append [] first second

theorem inBounds_back (first second : List Char) :
    InBounds ⟨first ++ second, byteLength first, byteLength (first ++ second)⟩ := by
  simpa using inBounds_append first second []

@[simp]
theorem take_front (first second : List Char) :
    take ⟨first ++ second, 0, byteLength first⟩ = .ok first := by
  rw [take_of_inBounds (inBounds_front first second), slice_zero_append]

theorem take_back (first second : List Char) :
    take ⟨first ++ second, byteLength first, byteLength (first ++ second)⟩ = .ok second := by
  rw [take_of_inBounds (inBounds_back first second), slice_append_end]

/-- A cut that starts between the bytes of a character is out of bounds. -/
example : take ⟨['a', 'é', 'b'], 2, 4⟩ = .error ⟨['a', 'é', 'b'], 2, 4⟩ := rfl

end Cut
end Text
end BindingGen
