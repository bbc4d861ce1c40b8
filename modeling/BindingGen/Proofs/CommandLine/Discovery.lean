import BindingGen.Proofs.CommandLine.Descriptions
import BindingGen.Proofs.Files.Parents
import BindingGen.Proofs.Manifest.InStore

/-!
# Manifests found and manifests named

A command may find its manifest or be told its path.  On the second way the directory of the
manifest is the parent of that path, and this is the directory in which the search has found it.
So a catalog that the manifest names is looked for in one place, and the settings are the same.
-/

namespace BindingGen
namespace CommandLine

open InStore

theorem run_namedSettings_fst {path base : String} (inBase : Path.parent? path = some base)
    (session : Session) :
    ((namedSettings path : InStore _).run session).1 =
      match Manifest.inStore session.store session.current path with
      | .error fault => .error (.manifest fault)
      | .ok manifest =>
        (manifest.settingsInStore session.store session.current base).mapError
          (.applying path) := by
  unfold namedSettings
  rw [run_bind, Manifest.run_load]
  cases Manifest.inStore session.store session.current path with
  | error fault => rfl
  | ok manifest =>
      cases resolved : manifest.settingsInStore session.store session.current base <;>
        simp [inBase, resolved]

theorem run_nearestSettings_fst {session : Session} {directory holder : String}
    (first : Manifest.FirstHolder session.store session.current (Path.ancestors directory)
      holder) :
    ((nearestSettings directory : InStore _).run session).1 =
      match Manifest.inStore session.store session.current
          (Path.join holder Manifest.fileName) with
      | .error fault => .error (.manifest fault)
      | .ok manifest =>
        (manifest.settingsInStore session.store session.current holder).mapError .manifest := by
  unfold nearestSettings Manifest.find
  rw [run_bind, Manifest.run_findAmong_of_firstHolder first]
  cases Manifest.inStore session.store session.current (Path.join holder Manifest.fileName) with
  | error fault => rfl
  | ok manifest =>
      -- The event that is noted in between changes neither the store nor the place.
      cases resolved : manifest.settingsInStore session.store session.current holder <;>
        simp [resolved]

/-- Two ways to one manifest lead to the same settings, or they fail for the same reason.  On the
second way the path of the manifest is told when its settings cannot be used. -/
inductive Alike (path : String) : Except Fault Settings → Except Fault Settings → Prop where
  | found (s : Settings) : Alike path (.ok s) (.ok s)
  | unread (fault : Manifest.Fault) :
    Alike path (.error (.manifest fault)) (.error (.manifest fault))
  | unresolved (fault : Manifest.Fault) :
    Alike path (.error (.manifest fault)) (.error (.applying path fault))

theorem Alike.eq_ok {path : String} {discovered : Except Fault Settings} {s : Settings}
    (alike : Alike path discovered (.ok s)) : discovered = .ok s := by
  cases alike
  rfl

/-- A manifest that the search finds in some directory is used as if it had been named, provided
that the directory is the parent of its path. -/
theorem alike_of_parent {session : Session} {directory holder : String}
    (first : Manifest.FirstHolder session.store session.current (Path.ancestors directory) holder)
    (inHolder : Path.parent? (Path.join holder Manifest.fileName) = some holder) :
    Alike (Path.join holder Manifest.fileName)
      ((nearestSettings directory : InStore _).run session).1
      ((namedSettings (Path.join holder Manifest.fileName) : InStore _).run session).1 := by
  rw [run_nearestSettings_fst first, run_namedSettings_fst inHolder]
  cases Manifest.inStore session.store session.current (Path.join holder Manifest.fileName) with
  | error fault => exact .unread fault
  | ok manifest =>
      cases resolved : manifest.settingsInStore session.store session.current holder with
      | error fault =>
          simp only [resolved]
          exact .unresolved fault
      | ok s =>
          simp only [resolved]
          exact .found s

@[simp]
theorem run_loadSettings_none (session : Session) :
    (loadSettings none : InStore _).run session =
      (nearestSettings (Path.ofPlace session.current) : InStore _).run session := by
  unfold loadSettings
  rfl

@[simp]
theorem run_loadSettings_some (path : String) (session : Session) :
    (loadSettings (some path) : InStore _).run session =
      (namedSettings path : InStore _).run session := by
  unfold loadSettings
  rfl

/-- A command that finds its manifest and one that is told the path of the same file use the same
settings, or both fail, and for the same reason.  The directory that holds the manifest is the one
that the paths in it start from, on both ways. -/
theorem discovered_settings_are_those_named (session : Session)
    (working : ∀ name ∈ session.current, Path.IsComponent name) (holder : String)
    (first : Manifest.FirstHolder session.store session.current
      (Path.ancestors ((Workspace.currentDirectory : InStore String).run session).1) holder) :
    Path.parent? (Path.join holder Manifest.fileName) = some holder ∧
      Alike (Path.join holder Manifest.fileName)
        ((loadSettings none : InStore _).run session).1
        ((loadSettings (some (Path.join holder Manifest.fileName)) : InStore _).run session).1 := by
  obtain ⟨nearer, farther, isAncestor, -⟩ := id first
  have member : holder ∈ Path.ancestors (Path.ofPlace session.current) := by
    change holder ∈ Path.ancestors ((Workspace.currentDirectory : InStore String).run session).1
    rw [isAncestor]
    simp
  have inHolder := Path.parent?_join_of_mem_ancestors working member
    Manifest.isComponent_fileName
  rw [run_loadSettings_none, run_loadSettings_some]
  exact ⟨inHolder, alike_of_parent first inHolder⟩

/-- A store with a manifest above the working directory; it names a catalog beside it. -/
def besideStore : Store :=
  ⟨[(["work"], .directory), (["work", "sub"], .directory),
    (["work", "nativecalls.toml"], .file "[targets]\ncatalog = \"own.toml\"\n".toUTF8),
    (["work", "own.toml"], .file (Catalog.toToml (Platform.builtin.take 1)).toUTF8)]⟩

/-- Found from below, that manifest leads to the platforms of its catalog, as it does when named. -/
theorem discovered_besideStore_is_named :
    let s : Settings := { Settings.standard with platforms := Platform.builtin.take 1 }
    ((loadSettings none : InStore _).run ⟨besideStore, ["work", "sub"], []⟩).1 = .ok s ∧
      ((loadSettings (some "/work/nativecalls.toml") : InStore _).run
        ⟨besideStore, ["work", "sub"], []⟩).1 = .ok s := by
  intro s
  have working : ∀ name ∈ ["work", "sub"], Path.IsComponent name := by
    intro name member
    have either : name = "work" ∨ name = "sub" := by simpa using member
    rcases either with rfl | rfl <;> exact ⟨by decide, by decide, by decide, by decide⟩
  have first : Manifest.FirstHolder besideStore ["work", "sub"]
      (Path.ancestors (Path.ofPlace ["work", "sub"])) "/work" := by
    refine ⟨["/work/sub"], ["/"], by decide +kernel, ?_, _, rfl⟩
    intro other member
    rw [List.mem_singleton.mp member]
    rintro ⟨contents, read⟩
    cases read
  have loaded : (Catalog.load (Path.join "/work" "own.toml") : InStore _).run
      ⟨besideStore, ["work", "sub"], []⟩ =
        (.ok (Platform.builtin.take 1), ⟨besideStore, ["work", "sub"], []⟩) := by
    rw [Catalog.run_load_of_read rfl,
      Catalog.ofValidToml_toToml (Catalog.issues_eq_nil_iff.mp (by decide +kernel))]
  have read : Manifest.inStore besideStore ["work", "sub"] "/work/nativecalls.toml" =
      .ok (Manifest.ofCatalog "own.toml") := rfl
  obtain ⟨final, ran⟩ := exists_run_namedSettings_of_catalog
    (by decide +kernel : Path.parent? "/work/nativecalls.toml" = some "/work") read loaded
  have named : ((loadSettings (some "/work/nativecalls.toml") : InStore _).run
      ⟨besideStore, ["work", "sub"], []⟩).1 = .ok s := by
    rw [run_loadSettings_some, ran]
  obtain ⟨-, alike⟩ := discovered_settings_are_those_named ⟨besideStore, ["work", "sub"], []⟩
    working "/work" first
  have isPath : Path.join "/work" Manifest.fileName = "/work/nativecalls.toml" := by decide +kernel
  rw [isPath, named] at alike
  exact ⟨alike.eq_ok, named⟩

end CommandLine
end BindingGen
