import BindingGen.Proofs.Files.Lineage
import BindingGen.Proofs.Manifest.Search

/-!
# The nearest manifest

The search for a manifest goes along the line of a directory, from the directory itself to its
last parent, and the first one with a manifest file decides.  Stores that agree on the manifest
files up to that one lead to the same result, whatever farther directories hold.
-/

namespace BindingGen

namespace Manifest

open InStore

/-- The paths on which manifest files are looked for in some directories. -/
def pathsIn (directories : List String) : List String :=
  directories.map fun directory => Path.join directory fileName

/-- Where the manifest files up to the first one are the same, so is the result. -/
theorem run_findAmong_of_sameFiles {nearer farther : List String} {holder : String}
    {session other : Session} (atPlace : other.current = session.current)
    (empty : ∀ directory ∈ nearer,
      ¬ session.store.HasFile session.current (Path.join directory fileName))
    (present : session.store.HasFile session.current (Path.join holder fileName))
    (same : Store.SameFiles session.current (pathsIn (nearer ++ [holder])) session.store
      other.store) :
    ((findAmong (nearer ++ holder :: farther) : InStore _).run other).1 =
      ((findAmong (nearer ++ holder :: farther) : InStore _).run session).1 := by
  have isPath : ∀ directory ∈ nearer ++ [holder],
      Path.join directory fileName ∈ pathsIn (nearer ++ [holder]) :=
    fun directory member => List.mem_map.mpr ⟨directory, member, rfl⟩
  have holderIsPath := isPath holder (by simp)
  have first : FirstHolder session.store session.current (nearer ++ holder :: farther) holder :=
    ⟨nearer, farther, rfl, empty, present⟩
  have alsoFirst : FirstHolder other.store other.current (nearer ++ holder :: farther) holder := by
    rw [atPlace]
    refine ⟨nearer, farther, rfl, ?_, (same.hasFile_iff holderIsPath).mp present⟩
    intro directory member held
    apply empty directory member
    exact (same.hasFile_iff (isPath directory (List.mem_append_left [holder] member))).mpr held
  obtain ⟨contents, read⟩ := present
  have alsoRead := (same _ holderIsPath contents).mp read
  rw [run_findAmong_of_firstHolder first, run_findAmong_of_firstHolder alsoFirst, atPlace,
    inStore_of_read read alsoRead]

/-- Along the line of a path without dots no two directories hold the same manifest file. -/
theorem target_pathsIn_ne {start holder : String} {nearer farther : List String}
    (line : Path.Lineage start (nearer ++ holder :: farther))
    (components : ∀ name ∈ Path.names start, Path.IsComponent name) (current : Place) :
    ∀ path ∈ pathsIn (nearer ++ [holder]), ∀ other ∈ pathsIn farther,
      Store.target current path ≠ Store.target current other := by
  have ordered := line.pairwise_target components current
  rw [← List.singleton_append, ← List.append_assoc] at ordered
  intro path member other isOther same
  obtain ⟨near, isNear, rfl⟩ := List.mem_map.mp member
  obtain ⟨far, isFar, rfl⟩ := List.mem_map.mp isOther
  have shorter := (List.pairwise_append.mp ordered).2.2 near isNear far isFar
  rw [Store.target_join_component isComponent_fileName,
    Store.target_join_component isComponent_fileName] at same
  have samePlace := List.append_cancel_right same
  rw [samePlace] at shorter
  exact Nat.lt_irrefl _ shorter

/-- The search goes along the whole line of a directory, which is finite.  It finds nothing exactly
when no directory of the line holds a regular file of the right name.  Otherwise the nearest one
that does decides: its file is loaded, and nothing else is tried when that fails.  What farther
directories hold does not matter: in stores with the same manifest files up to the nearest one the
result is the same.  When the path has no dots, so that no directory stands on its line twice, this
allows every change of the manifest files in farther directories. -/
theorem nearest_manifest_decides (start : String) (session : Session) :
    ∃ directories, Path.Lineage start directories ∧
      directories.length ≤ (Path.segments start).length + 1 ∧
      ((find start : InStore _).run session).2 = session ∧
      (((find start : InStore _).run session).1 = .ok none ↔
        ∀ directory ∈ directories,
          ¬ session.store.HasFile session.current (Path.join directory fileName)) ∧
      ∀ nearer holder farther, directories = nearer ++ holder :: farther →
        (∀ directory ∈ nearer,
          ¬ session.store.HasFile session.current (Path.join directory fileName)) →
        session.store.HasFile session.current (Path.join holder fileName) →
          ((find start : InStore _).run session).1 =
            ((load (Path.join holder fileName) : InStore _).run session).1.map
              (fun manifest => some (holder, manifest)) ∧
          (∀ other : Session, other.current = session.current →
            Store.SameFiles session.current (pathsIn (nearer ++ [holder])) session.store
              other.store →
            ((find start : InStore _).run other).1 = ((find start : InStore _).run session).1) ∧
          ((∀ name ∈ Path.names start, Path.IsComponent name) →
            ∀ other : Session, other.current = session.current →
              Store.DifferAt session.current (pathsIn farther) session.store other.store →
              ((find start : InStore _).run other).1 =
                ((find start : InStore _).run session).1) := by
  refine ⟨Path.ancestors start, Path.lineage_ancestors start, Path.length_ancestors_le start,
    run_findAmong_snd _ session, run_findAmong_eq_none_iff, ?_⟩
  intro nearer holder farther line empty present
  have first : FirstHolder session.store session.current (Path.ancestors start) holder :=
    ⟨nearer, farther, line, empty, present⟩
  have unaffected : ∀ other : Session, other.current = session.current →
      Store.SameFiles session.current (pathsIn (nearer ++ [holder])) session.store other.store →
      ((find start : InStore _).run other).1 = ((find start : InStore _).run session).1 := by
    intro other atPlace same
    rw [find, line]
    exact run_findAmong_of_sameFiles atPlace empty present same
  refine ⟨?_, unaffected, ?_⟩
  · rw [find, run_findAmong_of_firstHolder first, run_load]
  · intro components other atPlace differ
    apply unaffected other atPlace
    apply differ.sameFiles
    have isLine := Path.lineage_ancestors start
    rw [line] at isLine
    exact target_pathsIn_ne isLine components session.current

/-- A store in which a manifest stands between a directory of the same name below it and some
other contents in a file above it. -/
def layeredStore (above : List (Place × Node)) : Store :=
  ⟨[(["work"], .directory), (["work", "sub"], .directory),
    (["work", "sub", "nativecalls.toml"], .directory),
    (["work", "nativecalls.toml"], .file "[library]\nstem = \"own\"\n".toUTF8)] ++ above⟩

/-- The manifest in between is found, with a broken one above it as well as without. -/
theorem nearest_manifest_of_layeredStore_decides :
    let broken : Session := ⟨layeredStore [(["nativecalls.toml"], .file ⟨#[91]⟩)], [], []⟩
    let cleared : Session := ⟨layeredStore [], [], []⟩
    Path.Lineage "/work/sub" (["/work/sub"] ++ "/work" :: ["/"]) ∧
      ¬ broken.store.HasFile [] "/work/sub/nativecalls.toml" ∧
      broken.store.HasFile [] "/work/nativecalls.toml" ∧
      (∀ name ∈ Path.names "/work/sub", Path.IsComponent name) ∧
      Store.DifferAt [] (pathsIn ["/"]) broken.store cleared.store ∧
      Store.SameFiles [] (pathsIn ["/work/sub", "/work"]) broken.store cleared.store ∧
      ∃ manifest, manifest.library.stem = some "own" ∧
        ((find "/work/sub" : InStore _).run broken).1 = .ok (some ("/work", manifest)) ∧
        ((find "/work/sub" : InStore _).run cleared).1 = .ok (some ("/work", manifest)) := by
  intro broken cleared
  have line : Path.Lineage "/work/sub" (["/work/sub"] ++ "/work" :: ["/"]) := by
    have isLine := Path.lineage_ancestors "/work/sub"
    rwa [show Path.ancestors "/work/sub" = ["/work/sub"] ++ "/work" :: ["/"] by
      decide +kernel] at isLine
  have passed : ¬ broken.store.HasFile [] "/work/sub/nativecalls.toml" := by
    rintro ⟨contents, read⟩
    cases read
  have present : broken.store.HasFile [] "/work/nativecalls.toml" := ⟨_, rfl⟩
  have components : ∀ name ∈ Path.names "/work/sub", Path.IsComponent name := by
    have cut : Path.names "/work/sub" = ["work", "sub"] := by decide +kernel
    rw [cut]
    intro name member
    have either : name = "work" ∨ name = "sub" := by simpa using member
    rcases either with rfl | rfl <;> exact ⟨by decide, by decide, by decide, by decide⟩
  have elsewhere : ∀ place, place ≠ ["nativecalls.toml"] →
      broken.store.find? place = cleared.store.find? place := by
    intro place apart
    have passedOver : (["nativecalls.toml"] == place) = false := by simpa using apart.symm
    simp only [broken, cleared, Store.find?, layeredStore, List.find?_append,
      List.find?_singleton, passedOver, List.find?_nil]
    rfl
  have differ : Store.DifferAt [] (pathsIn ["/"]) broken.store cleared.store := by
    constructor
    · intro place
      by_cases above : place = ["nativecalls.toml"]
      · rw [above]
        constructor <;> rintro ⟨⟩
      · rw [elsewhere place above]
    · intro place apart
      apply elsewhere place
      exact apart "/nativecalls.toml" (by decide +kernel)
  have same : Store.SameFiles [] (pathsIn ["/work/sub", "/work"]) broken.store cleared.store :=
    differ.sameFiles (target_pathsIn_ne line components [])
  refine ⟨line, passed, present, components, differ, same, ?_⟩
  obtain ⟨directories, isLine, -, -, -, decides⟩ := nearest_manifest_decides "/work/sub" broken
  obtain rfl := isLine.unique line
  have belowPath : Path.join "/work/sub" fileName = "/work/sub/nativecalls.toml" := by
    decide +kernel
  have holderPath : Path.join "/work" fileName = "/work/nativecalls.toml" := by decide +kernel
  have empty : ∀ directory ∈ ["/work/sub"],
      ¬ broken.store.HasFile [] (Path.join directory fileName) := by
    intro directory member
    rw [List.mem_singleton.mp member, belowPath]
    exact passed
  obtain ⟨found, -, unaffectedAbove⟩ :=
    decides ["/work/sub"] "/work" ["/"] rfl empty (by rw [holderPath]; exact present)
  have loaded : ((load (Path.join "/work" fileName) : InStore _).run broken).1 =
      .ok { Manifest.empty with library := ⟨some "own"⟩ } := by
    rw [holderPath, run_load]
    rfl
  rw [loaded] at found
  refine ⟨_, rfl, found, ?_⟩
  rw [unaffectedAbove components cleared rfl differ, found]
  rfl

end Manifest
end BindingGen
