import BindingGen.Files.Store

/-!
# Places that paths lead to

Nothing in a store redirects a path, so the place that a path leads to can be computed from its
names alone.  A store decides only whether the way there is open: every place on it has to be a
directory.  Reading, writing and creating are described here by that place, and a way that is
open stays open in every store that keeps the directories.
-/

namespace BindingGen
namespace Store

@[simp]
theorem find?_root (store : Store) : store.find? [] = some .directory := by
  simp [find?]

/-- Putting a node in the place of others keeps every entry at its own place. -/
private theorem find?_map_replace (nodes : List (Place × Node)) (place other : Place)
    (node : Node) :
    (nodes.map fun entry => if entry.1 == place then (place, node) else entry).find?
        (fun entry => entry.1 == other) =
      (nodes.find? fun entry => entry.1 == other).map
        fun entry => if entry.1 == place then (place, node) else entry := by
  rw [List.find?_map]
  congr 2
  funext entry
  by_cases atPlace : entry.1 = place <;> simp [atPlace]

/-- An update changes what is at its own place and nothing else. -/
theorem find?_insert (store : Store) {place : Place} (inside : place ≠ []) (node : Node)
    (other : Place) :
    (store.insert place node).find? other =
      if other = place then some node else store.find? other := by
  by_cases atRoot : other = []
  · subst atRoot
    simp [find?, inside.symm]
  cases present : store.nodes.find? fun entry => entry.1 == place with
  | some entry =>
      have atPlace : entry.1 = place := by simpa using List.find?_some present
      have replaced : (store.nodes.any fun entry => entry.1 == place) = true :=
        List.any_eq_true.mpr ⟨entry, List.mem_of_find?_eq_some present, by simpa using atPlace⟩
      simp only [find?, insert, replaced, if_true, atRoot, if_false, find?_map_replace]
      by_cases same : other = place
      · subst same
        simp [present, atPlace]
      · rw [if_neg same]
        cases found : store.nodes.find? fun entry => entry.1 == other with
        | none => rfl
        | some entry =>
            have elsewhere : ¬ entry.1 = place := by
              have atOther : entry.1 = other := by simpa using List.find?_some found
              exact fun equal => same (atOther.symm.trans equal)
            simp [elsewhere]
  | none =>
      have appended : (store.nodes.any fun entry => entry.1 == place) = false := by
        simpa using present
      simp only [find?, insert, appended, Bool.false_eq_true, atRoot, if_false,
        List.find?_append]
      by_cases same : other = place
      · subst same
        simp [present]
      · have apart : ¬ place = other := fun equal => same equal.symm
        simp [same, apart]

/-- Putting a node where one is present replaces the entry that is there. -/
theorem insert_of_find?_eq_some {store : Store} {place : Place} (inside : place ≠ [])
    {old : Node} (found : store.find? place = some old) (node : Node) :
    store.insert place node =
      ⟨store.nodes.map fun entry => if entry.1 == place then (place, node) else entry⟩ := by
  rw [find?, if_neg inside] at found
  obtain ⟨entry, isEntry, -⟩ := Option.map_eq_some_iff.mp found
  have atPlace : (entry.1 == place) = true := by simpa using List.find?_some isEntry
  have present : (store.nodes.any fun entry => entry.1 == place) = true :=
    List.any_eq_true.mpr ⟨entry, List.mem_of_find?_eq_some isEntry, atPlace⟩
  rw [Store.insert, if_pos present]

/-- After an update every entry is the new one or an old one of another place. -/
theorem eq_or_mem_of_mem_insert {store : Store} {place : Place} {node : Node}
    {entry : Place × Node} (member : entry ∈ (store.insert place node).nodes) :
    entry = (place, node) ∨ entry ∈ store.nodes ∧ entry.1 ≠ place := by
  unfold Store.insert at member
  split at member
  next =>
    obtain ⟨old, oldMem, rfl⟩ := List.mem_map.mp member
    by_cases same : old.1 = place
    · simp [same]
    · simp [same, oldMem]
  next absent =>
    rcases List.mem_append.mp member with old | new
    · refine .inr ⟨old, fun same => absent ?_⟩
      exact List.any_eq_true.mpr ⟨entry, old, by simp [same]⟩
    · exact .inl (List.mem_singleton.mp new)

/-- Every directory of one store is a directory of another. -/
def KeepsDirectories (before after : Store) : Prop :=
  ∀ place, before.find? place = some .directory → after.find? place = some .directory

theorem KeepsDirectories.refl (store : Store) : KeepsDirectories store store :=
  fun _ isDirectory => isDirectory

theorem KeepsDirectories.trans {first second third : Store}
    (earlier : KeepsDirectories first second) (later : KeepsDirectories second third) :
    KeepsDirectories first third :=
  fun place isDirectory => later place (earlier place isDirectory)

theorem ne_root_of_find?_ne {store : Store} {place : Place}
    (noDirectory : store.find? place ≠ some .directory) : place ≠ [] := by
  intro atRoot
  exact noDirectory (atRoot ▸ store.find?_root)

theorem keepsDirectories_insert {store : Store} {place : Place}
    (noDirectory : store.find? place ≠ some .directory) (node : Node) :
    KeepsDirectories store (store.insert place node) := by
  intro other isDirectory
  have apart : other ≠ place := by
    intro equal
    exact noDirectory (equal ▸ isDirectory)
  rw [find?_insert store (ne_root_of_find?_ne noDirectory), if_neg apart]
  exact isDirectory

/-! ## Following names -/

/-- The place one name further. -/
def advance (place : Place) (name : String) : Place :=
  if name = "." then place else if name = ".." then place.dropLast else place ++ [name]

/-- The place that names lead to when the way is open. -/
def resolve (place : Place) (names : List String) : Place :=
  names.foldl advance place

@[simp]
theorem resolve_append (place : Place) (first second : List String) :
    resolve place (first ++ second) = resolve (resolve place first) second :=
  List.foldl_append ..

/-- Whether a name can be followed out of a directory. -/
def Followable (name : String) : Prop :=
  name = "." ∨ name = ".." ∨ name.utf8ByteSize ≤ nameLimit

@[simp]
theorem follow_cons_eq_ok_iff {store : Store} {place target : Place} {name : String}
    {rest : List String} :
    store.follow place (name :: rest) = .ok target ↔
      store.find? place = some .directory ∧ Followable name ∧
        store.follow (advance place name) rest = .ok target := by
  rw [follow]
  cases found : store.find? place with
  | none => simp
  | some node =>
      cases node with
      | file contents => simp
      | directory =>
          by_cases same : name = "."
          · simp [same, advance, Followable]
          · by_cases up : name = ".."
            · simp [up, advance, Followable]
            · by_cases tooLong : nameLimit < name.utf8ByteSize
              · have long : ¬ name.utf8ByteSize ≤ nameLimit := by omega
                simp [same, up, tooLong, long, Followable]
              · have short : name.utf8ByteSize ≤ nameLimit := by omega
                simp [same, up, tooLong, short, advance, Followable]

theorem eq_resolve_of_follow {store : Store} {place target : Place} {names : List String}
    (followed : store.follow place names = .ok target) : target = resolve place names := by
  induction names generalizing place with
  | nil =>
      rw [follow] at followed
      exact (Except.ok.inj followed).symm
  | cons name rest ih =>
      exact ih (follow_cons_eq_ok_iff.mp followed).2.2

theorem follow_of_keepsDirectories {before after : Store} (keeps : KeepsDirectories before after)
    {place target : Place} {names : List String}
    (followed : before.follow place names = .ok target) :
    after.follow place names = .ok target := by
  induction names generalizing place with
  | nil =>
      rw [follow] at followed ⊢
      exact followed
  | cons name rest ih =>
      obtain ⟨isDirectory, followable, further⟩ := follow_cons_eq_ok_iff.mp followed
      exact follow_cons_eq_ok_iff.mpr ⟨keeps place isDirectory, followable, ih further⟩

theorem follow_append_eq_ok_iff {store : Store} {place target : Place}
    {first second : List String} :
    store.follow place (first ++ second) = .ok target ↔
      ∃ between, store.follow place first = .ok between ∧
        store.follow between second = .ok target := by
  induction first generalizing place with
  | nil => simp [follow]
  | cons name rest ih =>
      simp only [List.cons_append, follow_cons_eq_ok_iff, ih]
      grind

/-- A single dot can be followed at directories only and leads nowhere else. -/
theorem follow_dot_eq_ok_iff {store : Store} {place target : Place} :
    store.follow place ["."] = .ok target ↔
      store.find? place = some .directory ∧ target = place := by
  rw [follow_cons_eq_ok_iff]
  simp [Followable, advance, follow, eq_comm]

end Store
end BindingGen
