import BindingGen.Platform.Catalog

/-!
# Valid catalogs

A catalog breaks no rule exactly when it has entries, each of them is sound by itself, and no two
of them share an id or a constant.
-/

namespace BindingGen

/-- The rules that concern an entry alone. -/
structure Platform.Sound (p : Platform) : Prop where
  idFilled : Catalog.isBlankText p.id = false
  constantIdentifier : Text.isIdentifier p.constant.toList = true
  familyFilled : Catalog.isBlankText p.family.id = false
  extensionFilled : p.family.libraryExtension ≠ ""
  extensionUndotted : p.family.libraryExtension.toList.head? ≠ some '.'

namespace Catalog

/-- What a catalog is when it breaks no rule. -/
structure Valid (catalog : Catalog) : Prop where
  filled : catalog ≠ []
  sound : ∀ p ∈ catalog, p.Sound
  idsApart : (catalog.map Platform.id).Nodup
  constantsApart : (catalog.map Platform.constant).Nodup

@[simp]
theorem idIssues_eq_nil_iff {before : List Platform} {p : Platform} :
    idIssues before p = [] ↔ isBlankText p.id = false ∧ ∀ q ∈ before, q.id ≠ p.id := by
  unfold idIssues
  cases blank : isBlankText p.id with
  | true => simp
  | false =>
      cases shared : before.any fun q => q.id == p.id with
      | true =>
          obtain ⟨q, member, same⟩ := List.any_eq_true.mp shared
          simp only [Bool.false_eq_true, if_false, if_true, List.cons_ne_nil, true_and, false_iff]
          exact fun apart => apart q member (by simpa using same)
      | false => simpa using shared

@[simp]
theorem constantIssues_eq_nil_iff {before : List Platform} {p : Platform} :
    constantIssues before p = [] ↔
      Text.isIdentifier p.constant.toList = true ∧ ∀ q ∈ before, q.constant ≠ p.constant := by
  unfold constantIssues
  cases identifier : Text.isIdentifier p.constant.toList with
  | false => simp
  | true =>
      cases shared : before.any fun q => q.constant == p.constant with
      | true =>
          obtain ⟨q, member, same⟩ := List.any_eq_true.mp shared
          simp only [Bool.not_true, Bool.false_eq_true, if_false, if_true, List.cons_ne_nil,
            true_and, false_iff]
          exact fun apart => apart q member (by simpa using same)
      | false => simpa using shared

@[simp]
theorem familyIssues_eq_nil_iff {p : Platform} :
    familyIssues p = [] ↔ isBlankText p.family.id = false := by
  unfold familyIssues
  split <;> simp_all

@[simp]
theorem extensionIssues_eq_nil_iff {p : Platform} :
    extensionIssues p = [] ↔
      p.family.libraryExtension ≠ "" ∧ p.family.libraryExtension.toList.head? ≠ some '.' := by
  unfold extensionIssues
  by_cases filled : p.family.libraryExtension = ""
  · simp [filled]
  · by_cases dotted : p.family.libraryExtension.toList.head? = some '.' <;> simp [filled, dotted]

@[simp]
theorem entryIssues_eq_nil_iff {before : List Platform} {p : Platform} :
    entryIssues before p = [] ↔
      p.Sound ∧ (∀ q ∈ before, q.id ≠ p.id) ∧ ∀ q ∈ before, q.constant ≠ p.constant := by
  simp only [entryIssues, List.append_eq_nil_iff, idIssues_eq_nil_iff, constantIssues_eq_nil_iff,
    familyIssues_eq_nil_iff, extensionIssues_eq_nil_iff]
  constructor
  · rintro ⟨⟨⟨⟨id, ids⟩, constant, constants⟩, family⟩, filled, undotted⟩
    exact ⟨⟨id, constant, family, filled, undotted⟩, ids, constants⟩
  · rintro ⟨⟨id, constant, family, filled, undotted⟩, ids, constants⟩
    exact ⟨⟨⟨⟨id, ids⟩, constant, constants⟩, family⟩, filled, undotted⟩

/-- The entries seen so far only matter through the ids and constants that later entries may not
use again. -/
theorem issuesAfter_eq_nil_iff {before rest : List Platform} :
    issuesAfter before rest = [] ↔
      (∀ p ∈ rest, p.Sound) ∧
      ((rest.map Platform.id).Nodup ∧ ∀ p ∈ rest, ∀ q ∈ before, q.id ≠ p.id) ∧
      (rest.map Platform.constant).Nodup ∧ ∀ p ∈ rest, ∀ q ∈ before, q.constant ≠ p.constant := by
  induction rest generalizing before with
  | nil => simp [issuesAfter]
  | cons p rest ih =>
      simp only [issuesAfter, List.append_eq_nil_iff, entryIssues_eq_nil_iff, ih, List.mem_cons,
        forall_eq_or_imp, List.map_cons, List.nodup_cons, List.mem_append, List.mem_map,
        not_exists, not_and]
      grind

@[simp]
theorem issues_eq_nil_iff {catalog : Catalog} : catalog.issues = [] ↔ catalog.Valid := by
  unfold issues
  cases catalog with
  | nil =>
      simp only [List.isEmpty_nil, if_true, List.cons_ne_nil, false_iff]
      exact fun valid => valid.filled rfl
  | cons p rest =>
      simp only [List.isEmpty_cons, Bool.false_eq_true, if_false, issuesAfter_eq_nil_iff]
      constructor
      · rintro ⟨sound, ⟨ids, -⟩, constants, -⟩
        exact ⟨List.cons_ne_nil p rest, sound, ids, constants⟩
      · rintro ⟨-, sound, ids, constants⟩
        exact ⟨sound, ⟨ids, by simp⟩, constants, by simp⟩

end Catalog
end BindingGen
