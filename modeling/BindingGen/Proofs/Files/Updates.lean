import BindingGen.Proofs.Files.Join
import BindingGen.Proofs.Files.Places
import BindingGen.Proofs.Steps

/-!
# Updates at the end of a path

Writing a file and creating a directory change one place: the one that the path leads to.  Both
keep every directory, so a path that led somewhere before an update leads to the same place after
it.
-/

namespace BindingGen
namespace Store

/-- The place that a path starts from. -/
def origin (current : Place) (path : String) : Place :=
  if Path.isAbsolute path then [] else current

/-- The place that a path leads to when the way there is open. -/
def target (current : Place) (path : String) : Place :=
  resolve (origin current path) (Path.names path)

theorem eq_origin_of_start {current place : Place} {path : String}
    (started : start current path = .ok place) : place = origin current path := by
  unfold start at started
  split at started
  · cases started
  · split at started
    · cases started
    · split at started
      · cases started
      · unfold origin
        split at started <;> simp_all

theorem locate_eq_ok_iff {store : Store} {current place : Place} {path : String} :
    store.locate current path = .ok place ↔
      start current path = .ok (origin current path) ∧
        store.follow (origin current path)
          (Path.names path ++ if Path.endsInSlash path then ["."] else []) = .ok place := by
  unfold locate
  rw [bind_eq_ok_iff]
  constructor
  · rintro ⟨first, started, followed⟩
    obtain rfl := eq_origin_of_start started
    exact ⟨started, followed⟩
  · rintro ⟨started, followed⟩
    exact ⟨_, started, followed⟩

/-- A path leads to its target or nowhere. -/
theorem eq_target_of_locate {store : Store} {current place : Place} {path : String}
    (located : store.locate current path = .ok place) : place = target current path := by
  have followed := (locate_eq_ok_iff.mp located).2
  rw [eq_resolve_of_follow followed, resolve_append, target]
  split
  · simp [resolve, advance]
  · rfl

theorem locate_of_keepsDirectories {before after : Store} (keeps : KeepsDirectories before after)
    {current place : Place} {path : String} (located : before.locate current path = .ok place) :
    after.locate current path = .ok place := by
  obtain ⟨started, followed⟩ := locate_eq_ok_iff.mp located
  exact locate_eq_ok_iff.mpr ⟨started, follow_of_keepsDirectories keeps followed⟩

theorem look_eq_ok_iff {store : Store} {current : Place} {path : String} {node : Node} :
    store.look current path = .ok node ↔
      store.locate current path = .ok (target current path) ∧
        store.find? (target current path) = some node := by
  unfold look
  cases located : store.locate current path with
  | error fault => simp
  | ok place =>
      rw [eq_target_of_locate located]
      cases found : store.find? (target current path) <;> simp [found]

theorem read_eq_ok_iff {store : Store} {current : Place} {path : String}
    {contents : ByteArray} :
    store.read current path = .ok contents ↔
      store.locate current path = .ok (target current path) ∧
        store.find? (target current path) = some (.file contents) := by
  rw [← look_eq_ok_iff]
  unfold read
  cases looked : store.look current path with
  | error fault => simp
  | ok node => cases node <;> simp

/-! ## Writing a file -/

theorem locateFile_eq_ok_iff {store : Store} {current place : Place} {path : String} :
    store.locateFile current path = .ok place ↔
      Path.endsInSlash path = false ∧ store.locate current path = .ok place ∧
        store.find? place ≠ some .directory := by
  unfold locateFile locate
  cases started : start current path with
  | error fault => simp
  | ok first =>
      cases ends : Path.endsInSlash path with
      | true =>
          cases parents : store.follow first ((Path.names path).dropLast ++ ["."]) <;>
            simp [parents]
      | false =>
          cases followed : store.follow first (Path.names path) with
          | error fault => simp [followed]
          | ok last =>
              cases found : store.find? last with
              | none => simp [followed, found]; grind
              | some node =>
                  cases node <;> simp [followed, found] <;> grind

/-- A write succeeds where the way to its target is open and no directory is there, and then
puts the contents at the target. -/
theorem write_eq_ok_iff {store after : Store} {current : Place} {path : String}
    {contents : ByteArray} :
    store.write current path contents = .ok after ↔
      Path.endsInSlash path = false ∧
        store.locate current path = .ok (target current path) ∧
        store.find? (target current path) ≠ some .directory ∧
        after = store.insert (target current path) (.file contents) := by
  simp only [write, bind_eq_ok_iff, locateFile_eq_ok_iff, pure_eq_ok, Except.ok.injEq]
  constructor
  · rintro ⟨place, ⟨noSlash, located, noDirectory⟩, rfl⟩
    obtain rfl := eq_target_of_locate located
    exact ⟨noSlash, located, noDirectory, rfl⟩
  · rintro ⟨noSlash, located, noDirectory, rfl⟩
    exact ⟨_, ⟨noSlash, located, noDirectory⟩, rfl⟩

theorem keepsDirectories_of_write {store after : Store} {current : Place} {path : String}
    {contents : ByteArray} (written : store.write current path contents = .ok after) :
    KeepsDirectories store after := by
  obtain ⟨-, -, noDirectory, rfl⟩ := write_eq_ok_iff.mp written
  exact keepsDirectories_insert noDirectory _

theorem find?_of_write {store after : Store} {current : Place} {path : String}
    {contents : ByteArray} (written : store.write current path contents = .ok after)
    (place : Place) :
    after.find? place =
      if place = target current path then some (.file contents) else store.find? place := by
  obtain ⟨-, -, noDirectory, rfl⟩ := write_eq_ok_iff.mp written
  exact find?_insert store (ne_root_of_find?_ne noDirectory) _ place

theorem locate_of_write {store after : Store} {current : Place} {path : String}
    {contents : ByteArray} (written : store.write current path contents = .ok after) :
    after.locate current path = .ok (target current path) :=
  locate_of_keepsDirectories (keepsDirectories_of_write written)
    (write_eq_ok_iff.mp written).2.1

theorem read_of_write {store after : Store} {current : Place} {path : String}
    {contents : ByteArray} (written : store.write current path contents = .ok after) :
    after.read current path = .ok contents := by
  refine read_eq_ok_iff.mpr ⟨locate_of_write written, ?_⟩
  rw [find?_of_write written, if_pos rfl]

/-- Writing a file makes no directory. -/
theorem keepsDirectories_before_write {store after : Store} {current : Place} {path : String}
    {contents : ByteArray} (written : store.write current path contents = .ok after) :
    KeepsDirectories after store := by
  intro place isDirectory
  rw [find?_of_write written] at isDirectory
  split at isDirectory
  · cases isDirectory
  · exact isDirectory

/-- Whether a file can be written depends on the directories of a store alone. -/
theorem exists_write_of_keepsDirectories {store other after : Store} {current : Place}
    {path : String} {contents : ByteArray} (keeps : KeepsDirectories store other)
    (keepsBack : KeepsDirectories other store)
    (written : store.write current path contents = .ok after) :
    ∃ alone, other.write current path contents = .ok alone := by
  obtain ⟨noSlash, located, noDirectory, -⟩ := write_eq_ok_iff.mp written
  refine ⟨_, write_eq_ok_iff.mpr ⟨noSlash, locate_of_keepsDirectories keeps located, ?_, rfl⟩⟩
  exact fun isDirectory => noDirectory (keepsBack _ isDirectory)

/-! ## Creating a directory -/

theorem locateNew_eq_ok_iff {store : Store} {current place : Place} {path : String} :
    store.locateNew current path = .ok place ↔
      start current path = .ok (origin current path) ∧
        store.follow (origin current path) (Path.names path) = .ok place ∧
        store.find? place = none := by
  unfold locateNew
  cases started : start current path with
  | error fault => simp
  | ok first =>
      rw [eq_origin_of_start started]
      cases followed : store.follow (origin current path) (Path.names path) with
      | error fault => simp [followed]
      | ok last =>
          cases found : store.find? last <;> simp [followed, found] <;> grind

theorem makeDirectory_eq_ok_iff {store after : Store} {current : Place} {path : String} :
    store.makeDirectory current path = .ok after ↔
      store.locateNew current path = .ok (target current path) ∧
        after = store.insert (target current path) .directory := by
  simp only [makeDirectory, bind_eq_ok_iff, pure_eq_ok, Except.ok.injEq]
  constructor
  · rintro ⟨place, located, rfl⟩
    have atTarget : place = target current path :=
      eq_resolve_of_follow (locateNew_eq_ok_iff.mp located).2.1
    subst atTarget
    exact ⟨located, rfl⟩
  · rintro ⟨located, rfl⟩
    exact ⟨_, located, rfl⟩

private theorem find?_of_locateNew {store : Store} {current place : Place} {path : String}
    (located : store.locateNew current path = .ok place) :
    store.find? place ≠ some .directory := by
  simp [(locateNew_eq_ok_iff.mp located).2.2]

theorem keepsDirectories_of_makeDirectory {store after : Store} {current : Place} {path : String}
    (made : store.makeDirectory current path = .ok after) : KeepsDirectories store after := by
  obtain ⟨located, rfl⟩ := makeDirectory_eq_ok_iff.mp made
  exact keepsDirectories_insert (find?_of_locateNew located) _

theorem find?_of_makeDirectory {store after : Store} {current : Place} {path : String}
    (made : store.makeDirectory current path = .ok after) (place : Place) :
    after.find? place =
      if place = target current path then some .directory else store.find? place := by
  obtain ⟨located, rfl⟩ := makeDirectory_eq_ok_iff.mp made
  exact find?_insert store (ne_root_of_find?_ne (find?_of_locateNew located)) _ place

/-- A slash at the end of a path asks for a directory, and a new directory answers it. -/
theorem locate_of_makeDirectory {store after : Store} {current : Place} {path : String}
    (made : store.makeDirectory current path = .ok after) :
    after.locate current path = .ok (target current path) := by
  obtain ⟨started, followed, -⟩ :=
    locateNew_eq_ok_iff.mp (makeDirectory_eq_ok_iff.mp made).1
  have here : after.find? (target current path) = some .directory := by
    rw [find?_of_makeDirectory made, if_pos rfl]
  have reached := follow_of_keepsDirectories (keepsDirectories_of_makeDirectory made) followed
  refine locate_eq_ok_iff.mpr ⟨started, follow_append_eq_ok_iff.mpr ⟨_, reached, ?_⟩⟩
  split
  · exact follow_dot_eq_ok_iff.mpr ⟨here, rfl⟩
  · simp [follow]

/-! ## Joined paths -/

theorem target_join {path : String} (relative : Path.isAbsolute path = false) (current : Place)
    (directory : String) :
    target current (Path.join directory path) =
      resolve (target current directory) (Path.names path) := by
  unfold target origin
  rw [Path.isAbsolute_join relative, Path.names_join relative, resolve_append]

/-- A single component leads from a directory to something directly inside it. -/
theorem target_join_component {component : String} (isComponent : Path.IsComponent component)
    (current : Place) (directory : String) :
    target current (Path.join directory component) =
      target current directory ++ [component] := by
  rw [target_join (Path.isAbsolute_eq_false_of_noSlash isComponent.noSlash),
    Path.names_eq_singleton isComponent.filled isComponent.noSlash]
  simp [resolve, advance, isComponent.notSame, isComponent.notUp]

end Store
end BindingGen
