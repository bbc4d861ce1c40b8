import BindingGen.Text.Lowercase

/-!
# Characters that lower case leaves alone

Most characters are no letter and no lower-case form of one.  Such a character occurs in the
lower-case form of a text exactly when it occurs in the text.
-/

namespace BindingGen
namespace Text

/-- Whether a code point is neither changed by a run of the case table nor what one changes to. -/
def CaseRun.avoids (run : CaseRun) (n : Nat) : Bool :=
  (n < run.first || run.last < n) &&
    ((n : Int) < run.first + run.shift || (run.last : Int) + run.shift < n)

/-- Whether lower case neither changes a character nor changes another one to it. -/
def isCaseless (c : Char) : Bool :=
  lowercaseRuns.toList.all (·.avoids c.toNat) &&
    !(['\x00', 'Σ', 'σ', 'ς', 'İ', 'i', '\u0307'].contains c)

/-- A number that is no code point stands for the null character. -/
theorem toNat_ofNat_or (n : Nat) : (Char.ofNat n).toNat = n ∨ Char.ofNat n = '\x00' := by
  by_cases isCode : n.isValidChar
  · rw [Char.ofNat, dif_pos isCode]
    exact .inl rfl
  · rw [Char.ofNat, dif_neg isCode]
    exact .inr rfl

variable {d : Char} (caseless : isCaseless d = true)
include caseless

theorem lowercaseChar_eq_iff {c : Char} : lowercaseChar c = d ↔ c = d := by
  simp only [isCaseless, Bool.and_eq_true, List.all_eq_true] at caseless
  obtain ⟨avoided, special⟩ := caseless
  have notNull : d ≠ '\x00' := by
    rintro rfl
    simp at special
  unfold lowercaseChar
  simp only
  split
  next run found =>
      have avoids := avoided run (Array.mem_toList_iff.mpr (Array.mem_of_find?_eq_some found))
      have inRun := Array.find?_some found
      simp only [CaseRun.avoids, Bool.and_eq_true, Bool.or_eq_true, decide_eq_true_eq]
        at avoids inRun
      constructor
      · intro lowered
        have code := toNat_ofNat_or (c.toNat + run.shift).toNat
        rw [lowered] at code
        have sameCode : d.toNat = (c.toNat + run.shift).toNat := code.resolve_right notNull
        have positive : d.toNat ≠ 0 := by
          intro isZero
          apply notNull
          rw [← Char.ofNat_toNat d, isZero]
        omega
      · rintro rfl
        omega
  next => rfl

theorem mem_lowercaseAfter_iff {before cs : List Char} :
    d ∈ lowercaseAfter before cs ↔ d ∈ cs := by
  have special : ∀ c ∈ ['Σ', 'σ', 'ς', 'İ', 'i', '\u0307'], d ≠ c := by
    simp only [isCaseless, Bool.and_eq_true] at caseless
    rintro c member rfl
    simp_all
  induction cs generalizing before with
  | nil => simp [lowercaseAfter]
  | cons c cs ih =>
      have here : (d ∈ (if c == 'Σ' then
            [if startsCased before && !startsCased cs then 'ς' else 'σ']
          else if c == 'İ' then ['i', '\u0307'] else [lowercaseChar c])) ↔ d = c := by
        split
        next isSigma =>
            rw [eq_of_beq isSigma]
            split <;> simp [special]
        next =>
          split
          next isDotted =>
              rw [eq_of_beq isDotted]
              simp [special]
          next => rw [List.mem_singleton, eq_comm, lowercaseChar_eq_iff caseless, eq_comm]
      simp only [lowercaseAfter, List.mem_append, ih, here, List.mem_cons]

theorem mem_lowercase_iff {cs : List Char} : d ∈ lowercase cs ↔ d ∈ cs :=
  mem_lowercaseAfter_iff caseless

end Text
end BindingGen
