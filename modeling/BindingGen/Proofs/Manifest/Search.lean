import BindingGen.Manifest
import BindingGen.Proofs.Files.Reading

/-!
# Finding a manifest

The search for a manifest goes through directories in order and ends at the first that holds a
regular file of the right name, whether or not that file reads as a manifest.  It only asks about
files, so what it finds is decided by the store alone.
-/

namespace BindingGen

namespace Manifest

open InStore

/-- The manifest that a path leads to. -/
def inStore (store : Store) (current : Place) (path : String) : Except Fault Manifest :=
  match store.text current path with
  | .error fault => .error (.reading path fault)
  | .ok text =>
    match ofToml text with
    | .error fault => .error (.parsing path fault)
    | .ok manifest => .ok manifest

theorem inStore_of_read {first second : Store} {current : Place} {path : String}
    {contents : ByteArray} (read : first.read current path = .ok contents)
    (alsoRead : second.read current path = .ok contents) :
    inStore first current path = inStore second current path := by
  simp only [inStore, Store.text, read, alsoRead]

@[simp]
theorem run_load (path : String) (session : Session) :
    (load path : InStore _).run session =
      (inStore session.store session.current path, session) := by
  cases read : session.store.text session.current path with
  | error fault => simp [load, inStore, read]
  | ok text => cases parsed : ofToml text <;> simp [load, inStore, read, parsed]

theorem keeps_load {α : Type} {part : Session → α} (path : String) :
    Keeps part (load path : InStore _) := by
  intro session
  rw [run_load]

/-! ## The first of some directories -/

theorem isComponent_fileName : Path.IsComponent fileName :=
  ⟨by decide, by decide, by decide, by decide⟩

/-- A directory is the first of some that holds a manifest file. -/
def FirstHolder (store : Store) (current : Place) (directories : List String)
    (holder : String) : Prop :=
  ∃ nearer farther, directories = nearer ++ holder :: farther ∧
    (∀ other ∈ nearer, ¬ store.HasFile current (Path.join other fileName)) ∧
    store.HasFile current (Path.join holder fileName)

/-- Some directories have a first one that holds a manifest file, or none of them holds one. -/
theorem exists_firstHolder_or (store : Store) (current : Place) (directories : List String) :
    (∃ holder, FirstHolder store current directories holder) ∨
      ∀ directory ∈ directories, ¬ store.HasFile current (Path.join directory fileName) := by
  induction directories with
  | nil => exact .inr fun _ member => absurd member List.not_mem_nil
  | cons directory rest ih =>
      by_cases present : store.HasFile current (Path.join directory fileName)
      · exact .inl ⟨directory, [], rest, rfl, fun _ member => absurd member List.not_mem_nil,
          present⟩
      · have passed : ∀ {nearer : List String},
            (∀ other ∈ nearer, ¬ store.HasFile current (Path.join other fileName)) →
              ∀ other ∈ directory :: nearer,
                ¬ store.HasFile current (Path.join other fileName) := by
          intro nearer empty other member
          rcases List.mem_cons.mp member with rfl | inNearer
          · exact present
          · exact empty other inNearer
        rcases ih with ⟨holder, nearer, farther, rfl, empty, held⟩ | empty
        · exact .inl ⟨holder, directory :: nearer, farther, rfl, passed empty, held⟩
        · exact .inr (passed empty)

theorem run_findAmong_cons_of_hasFile {directory : String} {session : Session}
    (present : session.store.HasFile session.current (Path.join directory fileName))
    (rest : List String) :
    (findAmong (directory :: rest) : InStore _).run session =
      ((inStore session.store session.current (Path.join directory fileName)).map
        fun manifest => some (directory, manifest), session) := by
  cases read : inStore session.store session.current (Path.join directory fileName) <;>
    simp [findAmong, run_isFile_of_hasFile present, read]

/-- A directory without a manifest file is passed over. -/
theorem run_findAmong_cons_of_not_hasFile {directory : String} {session : Session}
    (absent : ¬ session.store.HasFile session.current (Path.join directory fileName))
    (rest : List String) :
    (findAmong (directory :: rest) : InStore _).run session =
      (findAmong rest : InStore _).run session := by
  simp [findAmong, run_isFile_of_not_hasFile absent]

theorem run_findAmong_append {nearer : List String} {session : Session}
    (empty : ∀ other ∈ nearer,
      ¬ session.store.HasFile session.current (Path.join other fileName))
    (farther : List String) :
    (findAmong (nearer ++ farther) : InStore _).run session =
      (findAmong farther : InStore _).run session := by
  induction nearer with
  | nil => rfl
  | cons directory rest ih =>
      rw [List.cons_append, run_findAmong_cons_of_not_hasFile (empty directory List.mem_cons_self)]
      exact ih fun other member => empty other (List.mem_cons_of_mem directory member)

/-- The search is decided by the first directory that holds a manifest file. -/
theorem run_findAmong_of_firstHolder {directories : List String} {holder : String}
    {session : Session}
    (first : FirstHolder session.store session.current directories holder) :
    (findAmong directories : InStore _).run session =
      ((inStore session.store session.current (Path.join holder fileName)).map
        fun manifest => some (holder, manifest), session) := by
  obtain ⟨nearer, farther, rfl, empty, present⟩ := first
  rw [run_findAmong_append empty, run_findAmong_cons_of_hasFile present]

theorem run_findAmong_of_none {directories : List String} {session : Session}
    (empty : ∀ directory ∈ directories,
      ¬ session.store.HasFile session.current (Path.join directory fileName)) :
    (findAmong directories : InStore _).run session = (.ok none, session) := by
  have passed := run_findAmong_append empty []
  rw [List.append_nil] at passed
  exact passed

@[simp]
theorem run_findAmong_snd (directories : List String) (session : Session) :
    ((findAmong directories : InStore _).run session).2 = session := by
  rcases exists_firstHolder_or session.store session.current directories with
    ⟨holder, isFirst⟩ | empty
  · rw [run_findAmong_of_firstHolder isFirst]
  · rw [run_findAmong_of_none empty]

theorem keeps_findAmong {α : Type} {part : Session → α} (directories : List String) :
    Keeps part (findAmong directories : InStore _) := by
  intro session
  rw [run_findAmong_snd]

theorem run_findAmong_eq_none_iff {directories : List String} {session : Session} :
    ((findAmong directories : InStore _).run session).1 = .ok none ↔
      ∀ directory ∈ directories,
        ¬ session.store.HasFile session.current (Path.join directory fileName) := by
  constructor
  · intro nothing
    rcases exists_firstHolder_or session.store session.current directories with
      ⟨holder, isFirst⟩ | empty
    · rw [run_findAmong_of_firstHolder isFirst] at nothing
      cases read : inStore session.store session.current (Path.join holder fileName) with
      | error fault =>
          rw [read] at nothing
          cases nothing
      | ok manifest =>
          rw [read] at nothing
          cases nothing
    · exact empty
  · intro empty
    rw [run_findAmong_of_none empty]

theorem firstHolder_of_run_findAmong {directories : List String} {holder : String}
    {manifest : Manifest} {session final : Session}
    (found : (findAmong directories : InStore _).run session =
      (.ok (some (holder, manifest)), final)) :
    FirstHolder session.store session.current directories holder ∧
      inStore session.store session.current (Path.join holder fileName) = .ok manifest := by
  rcases exists_firstHolder_or session.store session.current directories with
    ⟨first, isFirst⟩ | empty
  · rw [run_findAmong_of_firstHolder isFirst] at found
    cases read : inStore session.store session.current (Path.join first fileName) with
    | error fault =>
        rw [read] at found
        cases found
    | ok other =>
        rw [read] at found
        cases found
        exact ⟨isFirst, read⟩
  · rw [run_findAmong_of_none empty] at found
    cases found

end Manifest
end BindingGen
