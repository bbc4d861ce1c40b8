import BindingGen.Manifest
import BindingGen.Proofs.Files.Creation
import BindingGen.Proofs.Platform.Selection

/-!
# Resolving a manifest

A manifest is resolved in stages: its catalog is loaded, its platforms are selected, and the
settings with its values are checked.  What each stage has accepted is collected here, so that it
is known of every resolved manifest.
-/

namespace BindingGen

open InStore

/-! ## Catalogs -/

theorem Platform.valid_builtin : Catalog.Valid Platform.builtin :=
  Catalog.issues_eq_nil_iff.mp rfl

theorem Catalog.valid_of_builtin_or_issues {catalog : Catalog}
    (origin : catalog = Platform.builtin ∨ catalog.issues = []) : catalog.Valid := by
  rcases origin with rfl | unbroken
  · exact Platform.valid_builtin
  · exact issues_eq_nil_iff.mp unbroken

theorem Catalog.issues_of_ofValidToml {text : String} {catalog : Catalog}
    (accepted : ofValidToml text = .ok catalog) : catalog.issues = [] := by
  unfold ofValidToml at accepted
  split at accepted
  · cases accepted
  · split at accepted
    next unbroken =>
      cases accepted
      exact unbroken
    next => cases accepted

/-- A catalog file that was loaded breaks no rule. -/
theorem Catalog.issues_of_load {path : String} {session final : Session} {catalog : Catalog}
    (loaded : (Catalog.load path : InStore _).run session = (.ok catalog, final)) :
    catalog.issues = [] := by
  unfold Catalog.load at loaded
  obtain ⟨present, between, -, loaded⟩ := exists_of_run_bind loaded
  cases present with
  | false => cases loaded
  | true =>
      obtain ⟨text, afterReading, -, loaded⟩ := exists_of_run_bind loaded
      cases text with
      | error fault => cases loaded
      | ok text => exact issues_of_ofValidToml (congrArg Prod.fst loaded)

namespace Manifest

variable {manifest : Manifest} {session final : Session}

theorem builtin_or_issues_of_loadCatalog {base : String} {catalog : Catalog}
    (loaded : (manifest.loadCatalog base : InStore _).run session = (.ok catalog, final)) :
    catalog = Platform.builtin ∨ catalog.issues = [] := by
  unfold loadCatalog at loaded
  split at loaded
  next =>
    cases loaded
    exact .inl rfl
  next =>
    obtain ⟨outcome, between, read, loaded⟩ := exists_of_run_bind loaded
    cases outcome with
    | error fault => cases loaded
    | ok catalog =>
        cases loaded
        exact .inr (Catalog.issues_of_load read)

/-! ## Settings -/

theorem sublist_of_selectFrom {catalog platforms : Catalog}
    (selected : manifest.selectFrom catalog = .ok platforms) :
    List.Sublist platforms catalog := by
  unfold selectFrom at selected
  split at selected
  · exact Catalog.sublist_of_select selected
  · cases selected
    exact List.Sublist.refl _

/-- A selection from a catalog with entries can only be empty when no platform is asked for. -/
theorem platforms_eq_of_selectFrom_eq_nil {catalog : Catalog} (filled : catalog ≠ [])
    (selected : manifest.selectFrom catalog = .ok []) :
    manifest.targets.platforms = some [] := by
  unfold selectFrom at selected
  split at selected
  next ids asked => rw [asked, Catalog.eq_nil_of_select_eq_nil selected]
  next =>
    cases selected
    exact absurd rfl filled

theorem settingsWith_eq_ok_iff {catalog : Catalog} {s : Settings} :
    manifest.settingsWith catalog = .ok s ↔
      ∃ platforms, manifest.selectFrom catalog = .ok platforms ∧
        s = manifest.overlay platforms ∧ s.validate = .ok () := by
  unfold settingsWith
  cases selected : manifest.selectFrom catalog with
  | error unknown => simp
  | ok platforms =>
      simp only [Except.ok.injEq, exists_eq_left']
      cases checked : (manifest.overlay platforms).validate with
      | error fault =>
          simp only [reduceCtorEq, false_iff, not_and]
          rintro rfl
          simp [checked]
      | ok =>
          constructor
          · rintro ⟨⟩
            exact ⟨rfl, checked⟩
          · rintro ⟨rfl, -⟩
            rfl

theorem settingsWith_eq_error_iff {catalog : Catalog} {fault : Fault} :
    manifest.settingsWith catalog = .error fault ↔
      (∃ unknown, manifest.selectFrom catalog = .error unknown ∧ fault = .platform unknown) ∨
      ∃ platforms cause, manifest.selectFrom catalog = .ok platforms ∧
        (manifest.overlay platforms).validate = .error cause ∧ fault = .settings cause := by
  unfold settingsWith
  cases manifest.selectFrom catalog with
  | error unknown => simp [eq_comm]
  | ok platforms =>
      cases checked : (manifest.overlay platforms).validate with
      | error cause => simp [checked, eq_comm]
      | ok => simp [checked]

/-- A manifest that was resolved has loaded a catalog and led to settings for it. -/
theorem exists_of_resolve {base : String} {s : Settings}
    (resolved : (manifest.resolve base : InStore _).run session = (.ok s, final)) :
    ∃ catalog between,
      (manifest.loadCatalog base : InStore _).run session = (.ok catalog, between) ∧
        manifest.settingsWith catalog = .ok s := by
  unfold resolve at resolved
  obtain ⟨outcome, between, loaded, resolved⟩ := exists_of_run_bind resolved
  cases outcome with
  | error fault => cases resolved
  | ok catalog =>
      refine ⟨catalog, between, loaded, ?_⟩
      cases settled : manifest.settingsWith catalog with
      | error fault =>
          simp only [settled] at resolved
          cases resolved
      | ok settings =>
          simp only [settled] at resolved
          cases resolved
          rfl

end Manifest
end BindingGen
