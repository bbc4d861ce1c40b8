import BindingGen.Proofs.Manifest.InStore
import BindingGen.Proofs.Platform.Requests

/-!
# Laying a manifest over the standard settings

Nine settings are taken one by one from the manifest, or are the standard ones where it does not
set them.  The platforms come from the catalog that the manifest names, or from the built-in one,
and are picked by their ids where it asks for some.  Loading, picking and checking can each fail,
and the first of them that does is reported.
-/

namespace BindingGen

namespace Settings

/-- The settings that a manifest sets one by one. -/
inductive Scalar where
  | namespaceName
  | className
  | filePrefix
  | referenceSymbol
  | exportFile
  | exportStyle
  | lineEnding
  | libraryStem
  | keepRepeated
  deriving DecidableEq

/-- The type of the values of a setting. -/
abbrev Scalar.Value : Scalar → Type
  | exportStyle => ExportStyle
  | lineEnding => LineEnding
  | keepRepeated => Bool
  | namespaceName | className | filePrefix | referenceSymbol | exportFile | libraryStem => String

def scalar (s : Settings) : (key : Scalar) → key.Value
  | .namespaceName => s.namespaceName
  | .className => s.className
  | .filePrefix => s.filePrefix
  | .referenceSymbol => s.referenceSymbol
  | .exportFile => s.exportFile
  | .exportStyle => s.exportStyle
  | .lineEnding => s.lineEnding
  | .libraryStem => s.libraryStem
  | .keepRepeated => s.keepRepeated

/-- Settings are the same when their platforms and all nine of the others are. -/
theorem ext_scalar {s t : Settings} (scalars : ∀ key, s.scalar key = t.scalar key)
    (platforms : s.platforms = t.platforms) : s = t := by
  have namespaceName : s.namespaceName = t.namespaceName := scalars .namespaceName
  have className : s.className = t.className := scalars .className
  have filePrefix : s.filePrefix = t.filePrefix := scalars .filePrefix
  have referenceSymbol : s.referenceSymbol = t.referenceSymbol := scalars .referenceSymbol
  have exportFile : s.exportFile = t.exportFile := scalars .exportFile
  have exportStyle : s.exportStyle = t.exportStyle := scalars .exportStyle
  have lineEnding : s.lineEnding = t.lineEnding := scalars .lineEnding
  have libraryStem : s.libraryStem = t.libraryStem := scalars .libraryStem
  have keepRepeated : s.keepRepeated = t.keepRepeated := scalars .keepRepeated
  cases s
  cases t
  simp_all

end Settings

namespace Manifest

open InStore Settings

/-- The value that a manifest gives to a setting. -/
def scalar? (manifest : Manifest) : (key : Scalar) → Option key.Value
  | .namespaceName => manifest.output.namespaceName
  | .className => manifest.output.className
  | .filePrefix => manifest.output.filePrefix
  | .referenceSymbol => manifest.output.referenceSymbol
  | .exportFile => manifest.output.exportFile
  | .exportStyle => manifest.output.exportStyle
  | .lineEnding => manifest.output.lineEnding
  | .libraryStem => manifest.library.stem
  | .keepRepeated => manifest.input.keepRepeated

/-- Settings hold the values of a manifest, the standard ones where it sets none, and some
platforms. -/
structure LaidOver (manifest : Manifest) (platforms : Catalog) (s : Settings) : Prop where
  scalars : ∀ key, s.scalar key = (manifest.scalar? key).getD (standard.scalar key)
  platforms : s.platforms = platforms

/-- The catalog from which a manifest in a directory takes its platforms, if it can be loaded. -/
def DrawsOn (manifest : Manifest) (base : String) (session : Session) (catalog : Catalog) : Prop :=
  match manifest.targets.catalog with
  | none => catalog = Platform.builtin
  | some path => ((Catalog.load (Path.join base path) : InStore _).run session).1 = .ok catalog

/-- The platforms that a manifest picks from a catalog, if it has all of them. -/
def Picks (manifest : Manifest) (catalog platforms : Catalog) : Prop :=
  match manifest.targets.platforms with
  | none => platforms = catalog
  | some ids => catalog.Offers ids ∧ catalog.Answers ids platforms

/-- The fault of the first stage that fails: the catalog cannot be loaded, it does not have a
platform that is asked for, or the settings are not accepted. -/
inductive StopsAt (manifest : Manifest) (base : String) (session : Session) : Fault → Prop
  | catalog {path : String} {cause : Catalog.Fault} :
      manifest.targets.catalog = some path →
      ((Catalog.load (Path.join base path) : InStore _).run session).1 = .error cause →
        StopsAt manifest base session (.catalog (Path.join base path) cause)
  | platform {catalog : Catalog} {ids : List String} {unknown : Catalog.UnknownPlatform} :
      manifest.DrawsOn base session catalog → manifest.targets.platforms = some ids →
      catalog.FirstUnknown ids unknown.id →
        StopsAt manifest base session (.platform unknown)
  | settings {catalog platforms : Catalog} {s : Settings} {cause : Settings.Fault} :
      manifest.DrawsOn base session catalog → manifest.Picks catalog platforms →
      manifest.LaidOver platforms s → s.validate = .error cause →
        StopsAt manifest base session (.settings cause)

variable {manifest : Manifest} {base : String} {session : Session}

/-! ## Stages -/

theorem laidOver_iff {platforms : Catalog} {s : Settings} :
    manifest.LaidOver platforms s ↔ s = manifest.overlay platforms := by
  have overlaid : ∀ key, (manifest.overlay platforms).scalar key =
      (manifest.scalar? key).getD (standard.scalar key) := by
    intro key
    cases key <;> rfl
  constructor
  · intro laid
    exact ext_scalar (fun key => (laid.scalars key).trans (overlaid key).symm) laid.platforms
  · rintro rfl
    exact ⟨overlaid, rfl⟩

theorem catalogInStore_eq_ok_iff {catalog : Catalog} :
    manifest.catalogInStore session.store session.current base = .ok catalog ↔
      manifest.DrawsOn base session catalog := by
  unfold catalogInStore DrawsOn
  cases manifest.targets.catalog with
  | none => simp [eq_comm]
  | some path =>
      simp only [Catalog.run_load]
      cases Catalog.inStore session.store session.current (Path.join base path) with
      | error cause => constructor <;> rintro ⟨⟩
      | ok loaded => constructor <;> rintro ⟨⟩ <;> rfl

theorem catalogInStore_eq_error_iff {fault : Fault} :
    manifest.catalogInStore session.store session.current base = .error fault ↔
      ∃ path cause, manifest.targets.catalog = some path ∧
        ((Catalog.load (Path.join base path) : InStore _).run session).1 = .error cause ∧
        fault = .catalog (Path.join base path) cause := by
  unfold catalogInStore
  cases manifest.targets.catalog with
  | none => simp
  | some path =>
      simp only [Catalog.run_load, Option.some.injEq, exists_and_left, exists_eq_left']
      cases Catalog.inStore session.store session.current (Path.join base path) with
      | error cause =>
          constructor
          · rintro ⟨⟩
            exact ⟨cause, rfl, rfl⟩
          · rintro ⟨_, ⟨⟩, rfl⟩
            rfl
      | ok loaded =>
          constructor
          · rintro ⟨⟩
          · rintro ⟨_, ⟨⟩, -⟩

theorem selectFrom_eq_ok_iff {catalog platforms : Catalog} :
    manifest.selectFrom catalog = .ok platforms ↔ manifest.Picks catalog platforms := by
  unfold selectFrom Picks
  cases manifest.targets.platforms with
  | none => simp [eq_comm]
  | some ids => exact Catalog.select_eq_ok_iff_answers

theorem selectFrom_eq_error_iff {catalog : Catalog} {unknown : Catalog.UnknownPlatform} :
    manifest.selectFrom catalog = .error unknown ↔
      ∃ ids, manifest.targets.platforms = some ids ∧ catalog.FirstUnknown ids unknown.id := by
  unfold selectFrom
  cases manifest.targets.platforms with
  | none => simp
  | some ids => simp [Catalog.select_eq_error_iff]

/-- The platforms of the result are decided by the section on targets. -/
theorem platforms_of_same_targets {other : Manifest} {s t : Settings}
    {catalog platforms otherCatalog otherPlatforms : Catalog}
    (same : other.targets = manifest.targets) (draws : manifest.DrawsOn base session catalog)
    (otherDraws : other.DrawsOn base session otherCatalog)
    (picks : manifest.Picks catalog platforms) (otherPicks : other.Picks otherCatalog otherPlatforms)
    (laid : manifest.LaidOver platforms s) (otherLaid : other.LaidOver otherPlatforms t) :
    t.platforms = s.platforms := by
  have sameCatalog : otherCatalog = catalog := by
    rw [DrawsOn, same, ← DrawsOn, ← catalogInStore_eq_ok_iff] at otherDraws
    exact Except.ok.inj (otherDraws.symm.trans (catalogInStore_eq_ok_iff.mpr draws))
  have samePlatforms : otherPlatforms = platforms := by
    rw [Picks, same, ← Picks, ← selectFrom_eq_ok_iff, sameCatalog] at otherPicks
    exact Except.ok.inj (otherPicks.symm.trans (selectFrom_eq_ok_iff.mpr picks))
  rw [otherLaid.platforms, laid.platforms, samePlatforms]

/-! ## Resolving -/

theorem run_resolve_eq_ok_iff {s : Settings} :
    ((manifest.resolve base : InStore _).run session).1 = .ok s ↔
      ∃ catalog platforms, manifest.DrawsOn base session catalog ∧
        manifest.Picks catalog platforms ∧ manifest.LaidOver platforms s ∧
        s.validate = .ok () := by
  rw [run_resolve_fst, settingsInStore]
  simp only [← catalogInStore_eq_ok_iff, ← selectFrom_eq_ok_iff, laidOver_iff]
  cases manifest.catalogInStore session.store session.current base with
  | error fault => simp
  | ok catalog => simp [settingsWith_eq_ok_iff]

theorem run_resolve_eq_error_iff {fault : Fault} :
    ((manifest.resolve base : InStore _).run session).1 = .error fault ↔
      manifest.StopsAt base session fault := by
  rw [run_resolve_fst, settingsInStore]
  constructor
  · intro failed
    cases loaded : manifest.catalogInStore session.store session.current base with
    | error first =>
        rw [loaded] at failed
        cases failed
        obtain ⟨path, cause, named, unread, rfl⟩ := catalogInStore_eq_error_iff.mp loaded
        exact .catalog named unread
    | ok catalog =>
        rw [loaded] at failed
        have draws := catalogInStore_eq_ok_iff.mp loaded
        rcases settingsWith_eq_error_iff.mp failed with
          ⟨unknown, missing, rfl⟩ | ⟨platforms, cause, picked, refused, rfl⟩
        · obtain ⟨ids, asked, first⟩ := selectFrom_eq_error_iff.mp missing
          exact .platform draws asked first
        · exact .settings draws (selectFrom_eq_ok_iff.mp picked) (laidOver_iff.mpr rfl) refused
  · intro stops
    cases stops with
    | catalog named unread =>
        rw [catalogInStore_eq_error_iff.mpr ⟨_, _, named, unread, rfl⟩]
        rfl
    | platform draws asked first =>
        rw [catalogInStore_eq_ok_iff.mpr draws]
        apply settingsWith_eq_error_iff.mpr
        exact .inl ⟨_, selectFrom_eq_error_iff.mpr ⟨_, asked, first⟩, rfl⟩
    | settings draws picks laid refused =>
        rw [catalogInStore_eq_ok_iff.mpr draws]
        apply settingsWith_eq_error_iff.mpr
        rw [laidOver_iff.mp laid] at refused
        exact .inr ⟨_, _, selectFrom_eq_ok_iff.mpr picks, refused, rfl⟩

/-- The directory of a manifest matters for a relative catalog path alone. -/
theorem resolve_of_absolute
    (absolute : ∀ path, manifest.targets.catalog = some path → Path.isAbsolute path = true)
    (base otherBase : String) :
    (manifest.resolve otherBase : InStore _) = manifest.resolve base := by
  have sameCatalog : (manifest.loadCatalog otherBase : InStore _) = manifest.loadCatalog base := by
    unfold loadCatalog
    cases named : manifest.targets.catalog with
    | none => rfl
    | some path =>
        dsimp only
        rw [Path.join_of_isAbsolute (absolute path named),
          Path.join_of_isAbsolute (absolute path named)]
  rw [resolve, resolve, sameCatalog]

/-- Resolving succeeds exactly when the catalog is loaded, has every platform that is asked for,
and the settings that are laid over the standard ones are accepted; these settings are then the
result.  Otherwise the first of these stages that fails is reported.  So manifests that differ in
one setting lead to settings that differ in it at most.  The directory of the manifest does not
matter unless a relative catalog path starts from it, and the store is the same afterwards. -/
theorem resolved_settings_are_laid_over (manifest : Manifest) (base : String)
    (session : Session) :
    (∀ s, ((manifest.resolve base : InStore _).run session).1 = .ok s ↔
      ∃ catalog platforms, manifest.DrawsOn base session catalog ∧
        manifest.Picks catalog platforms ∧ manifest.LaidOver platforms s ∧
        s.validate = .ok ()) ∧
    (∀ fault, ((manifest.resolve base : InStore _).run session).1 = .error fault ↔
      manifest.StopsAt base session fault) ∧
    (∀ (other : Manifest) (key : Scalar) s t, other.targets = manifest.targets →
      (∀ otherKey, otherKey ≠ key → other.scalar? otherKey = manifest.scalar? otherKey) →
      ((manifest.resolve base : InStore _).run session).1 = .ok s →
      ((other.resolve base : InStore _).run session).1 = .ok t →
        t.platforms = s.platforms ∧
          ∀ otherKey, otherKey ≠ key → t.scalar otherKey = s.scalar otherKey) ∧
    (∀ otherBase,
      (∀ path, manifest.targets.catalog = some path → Path.isAbsolute path = true) →
        (manifest.resolve otherBase : InStore _).run session =
          (manifest.resolve base : InStore _).run session) ∧
    ((manifest.resolve base : InStore _).run session).2.store = session.store := by
  refine ⟨fun s => run_resolve_eq_ok_iff, fun fault => run_resolve_eq_error_iff, ?_, ?_,
    keeps_resolve Session.store manifest base session⟩
  · intro other key s t sameTargets sameScalars resolved otherResolved
    obtain ⟨catalog, platforms, draws, picks, laid, -⟩ := run_resolve_eq_ok_iff.mp resolved
    obtain ⟨otherCatalog, otherPlatforms, otherDraws, otherPicks, otherLaid, -⟩ :=
      run_resolve_eq_ok_iff.mp otherResolved
    refine ⟨platforms_of_same_targets sameTargets draws otherDraws picks otherPicks laid otherLaid,
      ?_⟩
    intro otherKey apart
    rw [otherLaid.scalars, laid.scalars, sameScalars otherKey apart]
  · intro otherBase absolute
    rw [resolve_of_absolute absolute base otherBase]

/-- A manifest that sets a namespace and asks for two platforms. -/
def twoPlatforms : Manifest :=
  { empty with
    output := { OutputSection.empty with namespaceName := some "Interop" }
    targets := ⟨some ["osx-x64", "win-x64"], none⟩ }

/-- That manifest with a class name. -/
def twoPlatformsClassed : Manifest :=
  { twoPlatforms with output := { twoPlatforms.output with className := some "Native" } }

/-- Setting a class name as well changes nothing else.  A manifest that names an absolute path
without a catalog fails for the same reason in every directory. -/
theorem resolved_settings_of_twoPlatforms_are_laid_over :
    let here : Session := ⟨.empty, [], []⟩
    let detached : Manifest := { empty with targets := ⟨none, some "/gone.toml"⟩ }
    twoPlatformsClassed.targets = twoPlatforms.targets ∧
      (∀ key, key ≠ .className → twoPlatformsClassed.scalar? key = twoPlatforms.scalar? key) ∧
      (∃ s t, ((twoPlatforms.resolve "" : InStore _).run here).1 = .ok s ∧
        ((twoPlatformsClassed.resolve "" : InStore _).run here).1 = .ok t ∧
        s.platforms.map Platform.id = ["win-x64", "osx-x64"] ∧ s.namespaceName = "Interop" ∧
        t.platforms = s.platforms ∧ t.className = "Native" ∧
        ∀ key, key ≠ .className → t.scalar key = s.scalar key) ∧
      (∀ path, detached.targets.catalog = some path → Path.isAbsolute path = true) ∧
      (detached.resolve "sub" : InStore _).run here =
        (detached.resolve "" : InStore _).run here ∧
      detached.StopsAt "" here (.catalog "/gone.toml" (.notFound "/gone.toml")) := by
  intro here detached
  have sameScalars : ∀ key, key ≠ .className →
      twoPlatformsClassed.scalar? key = twoPlatforms.scalar? key := by
    intro key apart
    cases key with
    | className => exact absurd rfl apart
    | _ => rfl
  have absolute : ∀ path, detached.targets.catalog = some path → Path.isAbsolute path = true := by
    intro path named
    cases named
    decide
  obtain ⟨-, -, differ, -⟩ := resolved_settings_are_laid_over twoPlatforms "" here
  obtain ⟨-, stops, -, moved, -⟩ := resolved_settings_are_laid_over detached "" here
  have resolved : ((twoPlatforms.resolve "" : InStore _).run here).1 =
      .ok { standard with
        namespaceName := "Interop"
        platforms := Platform.builtin.filter fun p => ["osx-x64", "win-x64"].contains p.id } := rfl
  have alsoResolved : ((twoPlatformsClassed.resolve "" : InStore _).run here).1 =
      .ok { standard with
        namespaceName := "Interop"
        className := "Native"
        platforms := Platform.builtin.filter fun p => ["osx-x64", "win-x64"].contains p.id } := rfl
  obtain ⟨samePlatforms, sameOthers⟩ :=
    differ twoPlatformsClassed .className _ _ rfl sameScalars resolved alsoResolved
  exact ⟨rfl, sameScalars,
    ⟨_, _, resolved, alsoResolved, rfl, rfl, samePlatforms, rfl, sameOthers⟩,
    absolute, moved "sub" absolute, (stops _).mp rfl⟩

end Manifest
end BindingGen
