import BindingGen.CommandLine.Run
import BindingGen.Proofs.Manifest.Resolution
import BindingGen.Proofs.Manifest.Search

/-!
# The settings of a command

The settings of a command come from a manifest that is named, from the nearest one, or from no
manifest at all.  On every one of these ways they are checked, and their platforms are a selection
of a catalog that breaks no rule.
-/

namespace BindingGen
namespace CommandLine

open InStore

/-- The manifest that a command uses: the one that is named, else the one in the nearest directory
that has a manifest file. -/
def InForce (session : Session) (named : Option String) (manifest : Manifest) : Prop :=
  match named with
  | some path => Manifest.inStore session.store session.current path = .ok manifest
  | none =>
    ∃ holder,
      Manifest.FirstHolder session.store session.current
          (Path.ancestors ((Workspace.currentDirectory : InStore String).run session).1) holder ∧
        Manifest.inStore session.store session.current (Path.join holder Manifest.fileName) =
          .ok manifest

/-- Settings that a manifest was resolved to. -/
def ResolvedFrom (manifest : Manifest) (s : Settings) : Prop :=
  ∃ base session final, (manifest.resolve base : InStore _).run session = (.ok s, final)

theorem resolved_of_namedSettings {path : String} {session final : Session} {s : Settings}
    (found : (namedSettings path : InStore _).run session = (.ok s, final)) :
    ∃ manifest, InForce session (some path) manifest ∧ ResolvedFrom manifest s := by
  unfold namedSettings at found
  rw [run_bind, Manifest.run_load] at found
  cases read : Manifest.inStore session.store session.current path with
  | error fault =>
      simp only [read] at found
      cases found
  | ok manifest =>
      refine ⟨manifest, read, ?_⟩
      simp only [read] at found
      -- Both ways to the directory of the manifest go on alike.
      split at found
      all_goals
        obtain ⟨base, atBase, -, found⟩ := exists_of_run_bind found
        obtain ⟨result, resolving, resolved, found⟩ := exists_of_run_bind found
        cases result with
        | error fault => cases found
        | ok settings =>
            cases found
            exact ⟨base, atBase, _, resolved⟩

theorem standard_or_resolved_of_nearestSettings {directory : String} {session final : Session}
    {s : Settings}
    (found : (nearestSettings directory : InStore _).run session = (.ok s, final)) :
    s = .standard ∨ ∃ holder manifest,
      Manifest.FirstHolder session.store session.current (Path.ancestors directory) holder ∧
        Manifest.inStore session.store session.current (Path.join holder Manifest.fileName) =
          .ok manifest ∧
        ResolvedFrom manifest s := by
  unfold nearestSettings at found
  obtain ⟨outcome, between, looked, found⟩ := exists_of_run_bind found
  cases outcome with
  | error fault => cases found
  | ok nearest =>
      cases nearest with
      | none =>
          cases found
          exact .inl rfl
      | some entry =>
          obtain ⟨holder, manifest⟩ := entry
          obtain ⟨isFirst, read⟩ := Manifest.firstHolder_of_run_findAmong looked
          obtain ⟨-, noted, -, found⟩ := exists_of_run_bind found
          obtain ⟨result, resolving, resolved, found⟩ := exists_of_run_bind found
          cases result with
          | error fault => cases found
          | ok settings =>
              cases found
              exact .inr ⟨holder, manifest, isFirst, read, holder, noted, _, resolved⟩

/-- The settings of a command are the standard ones or those of the manifest in force. -/
theorem standard_or_resolved_of_loadSettings {named : Option String} {session final : Session}
    {s : Settings}
    (found : (loadSettings named : InStore _).run session = (.ok s, final)) :
    s = .standard ∨ ∃ manifest, InForce session named manifest ∧ ResolvedFrom manifest s := by
  cases named with
  | some path => exact .inr (resolved_of_namedSettings found)
  | none =>
      unfold loadSettings at found
      obtain ⟨directory, between, here, found⟩ := exists_of_run_bind found
      cases here
      rcases standard_or_resolved_of_nearestSettings found with
        standard | ⟨holder, manifest, isFirst, read, resolved⟩
      · exact .inl standard
      · exact .inr ⟨manifest, ⟨holder, isFirst, read⟩, resolved⟩

/-! ## What resolved settings are -/

/-- Resolved settings are accepted, and their platforms are a selection of a valid catalog. -/
theorem ResolvedFrom.selected {manifest : Manifest} {s : Settings}
    (resolved : ResolvedFrom manifest s) :
    s.validate = .ok () ∧ ∃ catalog,
      (catalog = Platform.builtin ∨ Catalog.issues catalog = []) ∧
        manifest.selectFrom catalog = .ok s.platforms := by
  obtain ⟨base, session, final, ran⟩ := resolved
  obtain ⟨catalog, between, loaded, settled⟩ := Manifest.exists_of_resolve ran
  obtain ⟨platforms, selected, rfl, accepted⟩ := Manifest.settingsWith_eq_ok_iff.mp settled
  exact ⟨accepted, catalog, Manifest.builtin_or_issues_of_loadCatalog loaded, selected⟩

theorem accepted_of_loadSettings {named : Option String} {session final : Session} {s : Settings}
    (found : (loadSettings named : InStore _).run session = (.ok s, final)) :
    s.validate = .ok () := by
  rcases standard_or_resolved_of_loadSettings found with rfl | ⟨manifest, -, resolved⟩
  · rfl
  · exact resolved.selected.1

theorem consistent_of_loadSettings {named : Option String} {session final : Session}
    {s : Settings}
    (found : (loadSettings named : InStore _).run session = (.ok s, final)) :
    s.platforms.Consistent := by
  rcases standard_or_resolved_of_loadSettings found with rfl | ⟨manifest, -, resolved⟩
  · exact Platform.valid_builtin.consistent
  · obtain ⟨-, catalog, origin, selected⟩ := resolved.selected
    have valid := Catalog.valid_of_builtin_or_issues origin
    exact valid.consistent.of_sublist (Manifest.sublist_of_selectFrom selected)

/-- Settings that a command has loaded are accepted ones.  Their platforms are a selection of the
built-in catalog or of one that breaks no rule, so they are consistent, and there are none of them
only when the manifest in force asks for none. -/
theorem loadSettings_is_consistent (named : Option String) (session final : Session)
    (s : Settings)
    (found : (loadSettings named : InStore _).run session = (.ok s, final)) :
    s.validate = .ok () ∧
      (∃ catalog, (catalog = Platform.builtin ∨ Catalog.issues catalog = []) ∧
        List.Sublist s.platforms catalog) ∧
      s.platforms.Consistent ∧
      (s.platforms = [] →
        ∃ manifest, InForce session named manifest ∧ manifest.targets.platforms = some []) := by
  rcases standard_or_resolved_of_loadSettings found with rfl | ⟨manifest, inForce, resolved⟩
  · exact ⟨rfl, ⟨Platform.builtin, .inl rfl, List.Sublist.refl _⟩,
      Platform.valid_builtin.consistent,
      fun nothing => absurd nothing Platform.valid_builtin.filled⟩
  · obtain ⟨accepted, catalog, origin, selected⟩ := resolved.selected
    have valid := Catalog.valid_of_builtin_or_issues origin
    have sublist := Manifest.sublist_of_selectFrom selected
    refine ⟨accepted, ⟨catalog, origin, sublist⟩, valid.consistent.of_sublist sublist, ?_⟩
    intro nothing
    rw [nothing] at selected
    exact ⟨manifest, inForce, Manifest.platforms_eq_of_selectFrom_eq_nil valid.filled selected⟩

/-- A store in which a manifest above the working directory asks for no platform. -/
def emptySelectionStore : Store :=
  ⟨[(["work"], .directory), (["work", "sub"], .directory),
    (["work", "nativecalls.toml"], .file "[targets]\nplatforms = []\n".toUTF8)]⟩

/-- No platforms are loaded there, and the manifest found has asked for that. -/
theorem loadSettings_emptySelection_is_consistent :
    ∃ s final,
      (loadSettings none : InStore _).run ⟨emptySelectionStore, ["work", "sub"], []⟩ =
        (.ok s, final) ∧
      s.platforms = [] ∧ s.validate = .ok () ∧
      ∃ manifest, InForce ⟨emptySelectionStore, ["work", "sub"], []⟩ none manifest ∧
        manifest.targets.platforms = some [] := by
  have loaded : ((loadSettings none : InStore _).run
      ⟨emptySelectionStore, ["work", "sub"], []⟩).1 =
        .ok { Settings.standard with platforms := [] } := rfl
  have found := Prod.ext_iff.mpr ⟨loaded, rfl⟩
  obtain ⟨accepted, -, -, askedForNone⟩ := loadSettings_is_consistent none _ _ _ found
  exact ⟨_, _, found, rfl, accepted, askedForNone rfl⟩

end CommandLine
end BindingGen
