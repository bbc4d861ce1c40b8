import BindingGen.Proofs.Platform.Validity

/-!
# Selections of a catalog

A selection leaves entries out and keeps the others in their order.  Whatever the rules of
catalogs ask of an entry alone or of two entries holds of the selection as well; only that there
are entries at all can be lost, and only by asking for none.
-/

namespace BindingGen
namespace Catalog

/-- A catalog, possibly without entries, whose entries are sound and differ in ids and
constants. -/
structure Consistent (catalog : Catalog) : Prop where
  sound : ∀ p ∈ catalog, p.Sound
  idsApart : (catalog.map Platform.id).Nodup
  constantsApart : (catalog.map Platform.constant).Nodup

theorem Valid.consistent {catalog : Catalog} (valid : catalog.Valid) : catalog.Consistent :=
  ⟨valid.sound, valid.idsApart, valid.constantsApart⟩

theorem Consistent.of_sublist {selected catalog : Catalog} (consistent : catalog.Consistent)
    (sublist : List.Sublist selected catalog) : selected.Consistent where
  sound p member := consistent.sound p (sublist.subset member)
  idsApart := consistent.idsApart.sublist (sublist.map Platform.id)
  constantsApart := consistent.constantsApart.sublist (sublist.map Platform.constant)

/-- An entry of a consistent catalog is a valid catalog by itself. -/
theorem Consistent.valid_singleton {catalog : Catalog} (consistent : catalog.Consistent)
    {p : Platform} (member : p ∈ catalog) : Valid [p] where
  filled := List.cons_ne_nil p []
  sound := by simpa using consistent.sound p member
  idsApart := by simp
  constantsApart := by simp

theorem find?_isNone_iff {catalog : Catalog} {id : String} :
    (catalog.find? id).isNone = true ↔ ∀ p ∈ catalog, p.id ≠ id := by
  simp [find?]

/-- A selection succeeds where every requested id occurs, and then keeps the entries with these
ids. -/
theorem select_eq_ok_iff {catalog selected : Catalog} {ids : List String} :
    catalog.select ids = .ok selected ↔
      (∀ id ∈ ids, ∃ p ∈ catalog, p.id = id) ∧
        selected = catalog.filter fun p => ids.contains p.id := by
  unfold select
  cases missing : ids.find? fun id => (catalog.find? id).isNone with
  | some id =>
      have absent : (catalog.find? id).isNone = true := by simpa using List.find?_some missing
      have unknown := find?_isNone_iff.mp absent
      have requested := List.mem_of_find?_eq_some missing
      simp only [reduceCtorEq, false_iff, not_and]
      intro known
      obtain ⟨p, member, same⟩ := known id requested
      exact absurd same (unknown p member)
  | none =>
      have known : ∀ id ∈ ids, ∃ p ∈ catalog, p.id = id := by
        intro id requested
        have found := List.find?_eq_none.mp missing id requested
        rw [find?_isNone_iff] at found
        simpa using found
      constructor
      · rintro ⟨⟩
        exact ⟨known, rfl⟩
      · rintro ⟨-, rfl⟩
        rfl

theorem sublist_of_select {catalog selected : Catalog} {ids : List String}
    (picked : catalog.select ids = .ok selected) : List.Sublist selected catalog := by
  rw [(select_eq_ok_iff.mp picked).2]
  exact List.filter_sublist

/-- A selection of at least one id has an entry. -/
theorem eq_nil_of_select_eq_nil {catalog : Catalog} {ids : List String}
    (picked : catalog.select ids = .ok []) : ids = [] := by
  obtain ⟨known, nothing⟩ := select_eq_ok_iff.mp picked
  cases ids with
  | nil => rfl
  | cons id rest =>
      obtain ⟨p, member, same⟩ := known id List.mem_cons_self
      have dropped := List.filter_eq_nil_iff.mp nothing.symm p member
      simp [same] at dropped

end Catalog
end BindingGen
