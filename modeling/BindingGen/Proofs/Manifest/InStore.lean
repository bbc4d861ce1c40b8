import BindingGen.Proofs.Manifest.Resolution
import BindingGen.Proofs.Manifest.Search

/-!
# Resolving in a store

What a manifest is resolved to is decided by the store, the place that relative paths start from
and the directory of the manifest; the events noted before do not matter.  So the result of
resolving is a function of these alone.
-/

namespace BindingGen

open InStore

namespace Catalog

/-- The catalog that a path leads to. -/
def inStore (store : Store) (current : Place) (path : String) : Except Fault Catalog :=
  match store.look current path with
  | .error _ => .error (.notFound path)
  | .ok _ =>
    match store.text current path with
    | .error fault => .error (.unreadable fault)
    | .ok text => ofValidToml text

@[simp]
theorem run_leadsSomewhere (path : String) (session : Session) :
    (Workspace.leadsSomewhere path : InStore Bool).run session =
      ((session.store.look session.current path).isOk, session) := by
  cases looked : session.store.look session.current path with
  | error fault => simp [Workspace.leadsSomewhere, looked, Except.isOk, Except.toBool]
  | ok node => cases node <;> simp [Workspace.leadsSomewhere, looked, Except.isOk, Except.toBool]

@[simp]
theorem run_load (path : String) (session : Session) :
    (load path : InStore _).run session =
      (inStore session.store session.current path, session) := by
  cases looked : session.store.look session.current path with
  | error fault => simp [load, inStore, looked, Except.isOk, Except.toBool]
  | ok node =>
      cases text : session.store.text session.current path <;>
        simp [load, inStore, looked, text, Except.isOk, Except.toBool]

end Catalog

namespace Manifest

/-- The catalog of a manifest in a directory. -/
def catalogInStore (manifest : Manifest) (store : Store) (current : Place) (base : String) :
    Except Fault Catalog :=
  match manifest.targets.catalog with
  | none => .ok Platform.builtin
  | some path =>
    (Catalog.inStore store current (Path.join base path)).mapError
      (.catalog (Path.join base path))

/-- What a manifest in a directory is resolved to. -/
def settingsInStore (manifest : Manifest) (store : Store) (current : Place) (base : String) :
    Except Fault Settings :=
  (manifest.catalogInStore store current base).bind manifest.settingsWith

@[simp]
theorem run_loadCatalog (manifest : Manifest) (base : String) (session : Session) :
    (manifest.loadCatalog base : InStore _).run session =
      (manifest.catalogInStore session.store session.current base, session) := by
  unfold loadCatalog catalogInStore
  cases manifest.targets.catalog with
  | none => rfl
  | some path =>
      cases loaded : Catalog.inStore session.store session.current (Path.join base path) <;>
        simp [loaded]

theorem keeps_loadCatalog {α : Type} {part : Session → α} (manifest : Manifest) (base : String) :
    Keeps part (manifest.loadCatalog base : InStore _) := by
  intro session
  rw [run_loadCatalog]

@[simp]
theorem run_resolve_fst (manifest : Manifest) (base : String) (session : Session) :
    ((manifest.resolve base : InStore _).run session).1 =
      manifest.settingsInStore session.store session.current base := by
  cases loaded : manifest.catalogInStore session.store session.current base with
  | error fault => simp [resolve, settingsInStore, loaded]
  | ok catalog =>
      cases settled : manifest.settingsWith catalog <;>
        simp [resolve, settingsInStore, loaded, settled]

/-- Resolving may note an event and does nothing else. -/
theorem keeps_resolve {α : Type} (part : Session → α) [IgnoresNotes part] (manifest : Manifest)
    (base : String) : Keeps part (manifest.resolve base : InStore _) := by
  unfold resolve
  refine (keeps_loadCatalog manifest base).bind fun loaded => ?_
  cases loaded with
  | error fault => exact keeps_pure _
  | ok catalog =>
      cases settled : manifest.settingsWith catalog with
      | error fault =>
          simp only [settled]
          exact keeps_pure _
      | ok settings =>
          simp only [settled]
          exact (keeps_note _).bind fun _ => keeps_pure _

end Manifest
end BindingGen
