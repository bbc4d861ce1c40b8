import BindingGen.Proofs.Files.Creation

/-!
# Reading and what a program keeps

Asking about files leaves a session as it is, so what a question answers is decided by the store
alone.  What a program keeps is stated of one part of a session at a time: its store, the place
where its relative paths start, or what it has printed.  Noting events keeps all three, changing
files the last two.  Such facts pass from the parts of a program to the whole.
-/

namespace BindingGen

namespace Store

/-- A path leads to a regular file. -/
def HasFile (store : Store) (current : Place) (path : String) : Prop :=
  ∃ contents, store.read current path = .ok contents

/-- The text that a path leads to. -/
def text (store : Store) (current : Place) (path : String) : Except FileFault String := do
  match String.fromUTF8? (← store.read current path) with
  | some text => .ok text
  | none => .error .invalidText

/-! ## Two stores -/

/-- Some paths lead to the same files in two stores. -/
def SameFiles (current : Place) (paths : List String) (first second : Store) : Prop :=
  ∀ path ∈ paths, ∀ contents,
    first.read current path = .ok contents ↔ second.read current path = .ok contents

variable {current : Place} {paths : List String} {first second : Store}

theorem SameFiles.hasFile_iff (same : SameFiles current paths first second) {path : String}
    (member : path ∈ paths) : first.HasFile current path ↔ second.HasFile current path :=
  exists_congr (same path member)

/-- Two stores have the same directories and differ at the ends of some paths alone. -/
structure DifferAt (current : Place) (paths : List String) (first second : Store) : Prop where
  directories : ∀ place,
    first.find? place = some .directory ↔ second.find? place = some .directory
  elsewhere : ∀ place, (∀ path ∈ paths, place ≠ target current path) →
    first.find? place = second.find? place

theorem DifferAt.locate_eq_ok_iff (differ : DifferAt current paths first second) {path : String}
    {place : Place} :
    first.locate current path = .ok place ↔ second.locate current path = .ok place :=
  ⟨locate_of_keepsDirectories fun place => (differ.directories place).mp,
    locate_of_keepsDirectories fun place => (differ.directories place).mpr⟩

/-- A path that leads to none of the places where two stores differ leads to the same file. -/
theorem DifferAt.sameFiles {others : List String} (differ : DifferAt current others first second)
    (apart : ∀ path ∈ paths, ∀ other ∈ others, target current path ≠ target current other) :
    SameFiles current paths first second := by
  intro path member contents
  rw [read_eq_ok_iff, read_eq_ok_iff, ← differ.locate_eq_ok_iff,
    differ.elsewhere (target current path) (apart path member)]

end Store

namespace InStore

/-! ## Questions -/

theorem run_isFile_of_hasFile {path : String} {session : Session}
    (present : session.store.HasFile session.current path) :
    (Workspace.isFile path : InStore Bool).run session = (true, session) := by
  obtain ⟨contents, read⟩ := present
  simp [Store.look_eq_ok_iff.mpr (Store.read_eq_ok_iff.mp read)]

theorem run_isFile_of_not_hasFile {path : String} {session : Session}
    (absent : ¬ session.store.HasFile session.current path) :
    (Workspace.isFile path : InStore Bool).run session = (false, session) := by
  cases looked : session.store.look session.current path with
  | error fault => simp [looked]
  | ok node =>
      cases node with
      | directory => simp [looked]
      | file contents =>
          have read := Store.read_eq_ok_iff.mpr (Store.look_eq_ok_iff.mp looked)
          exact absurd ⟨contents, read⟩ absent

@[simp]
theorem run_note (event : Log.Event) (session : Session) :
    (Workspace.note event : InStore Unit).run session = ((), session.tell (.noted event)) :=
  rfl

@[simp]
theorem run_print (text : String) (session : Session) :
    (Workspace.print text : InStore Unit).run session = ((), session.tell (.printed text)) :=
  rfl

@[simp]
theorem run_readText (path : String) (session : Session) :
    (Workspace.readText path : InStore _).run session =
      (session.store.text session.current path, session) := by
  have reading : (Workspace.readBytes path : InStore _).run session =
      (session.store.read session.current path, session) := rfl
  unfold Workspace.readText Store.text
  rw [run_bind, reading]
  cases session.store.read session.current path with
  | error fault => rfl
  | ok contents =>
      simp only [ok_bind]
      cases String.fromUTF8? contents <;> rfl

/-! ## Parts of a session -/

/-- A part of a session that log events do not belong to. -/
class IgnoresNotes {γ : Type} (part : Session → γ) : Prop where
  part_tell : ∀ (session : Session) (event : Log.Event),
    part (session.tell (.noted event)) = part session

/-- A part of a session that files do not belong to. -/
class IgnoresStore {γ : Type} (part : Session → γ) : Prop where
  part_store : ∀ (session : Session) (store : Store), part { session with store } = part session

instance : IgnoresNotes Session.store := ⟨fun _ _ => rfl⟩

instance : IgnoresNotes Session.current := ⟨fun _ _ => rfl⟩

instance : IgnoresNotes Session.printed := ⟨Session.printed_tell_noted⟩

instance : IgnoresStore Session.current := ⟨fun _ _ => rfl⟩

instance : IgnoresStore Session.printed := ⟨fun _ _ => rfl⟩

/-- A program that leaves a part of every session as it is. -/
def Keeps {α β : Type} (part : Session → β) (program : InStore α) : Prop :=
  ∀ session : Session, part (program.run session).2 = part session

variable {α β γ : Type} {part : Session → γ}

theorem keeps_pure (value : α) : Keeps part (pure value : InStore α) :=
  fun _ => rfl

theorem Keeps.bind {first : InStore α} {next : α → InStore β} (keeps : Keeps part first)
    (continues : ∀ value, Keeps part (next value)) : Keeps part (first >>= next) := by
  intro session
  rw [run_bind, continues, keeps]

theorem keeps_readText (path : String) :
    Keeps part (Workspace.readText path : InStore (Except FileFault String)) := by
  intro session
  rw [run_readText]

theorem keeps_currentDirectory : Keeps part (Workspace.currentDirectory : InStore String) :=
  fun _ => rfl

theorem keeps_note [IgnoresNotes part] (event : Log.Event) :
    Keeps part (Workspace.note event : InStore Unit) :=
  fun session => IgnoresNotes.part_tell session event

theorem keeps_store_printLine (line : String) :
    Keeps Session.store (Workspace.printLine line : InStore Unit) :=
  fun _ => rfl

theorem keeps_store_printLines (lines : List String) :
    Keeps Session.store (Workspace.printLines lines : InStore Unit) := by
  induction lines with
  | nil => exact keeps_pure ()
  | cons line rest ih => exact (keeps_store_printLine line).bind fun _ => ih

theorem keeps_writeBytes [IgnoresStore part] (path : String) (contents : ByteArray) :
    Keeps part (Workspace.writeBytes path contents : InStore _) := by
  intro session
  rw [run_writeBytes]
  cases session.store.write session.current path contents with
  | error fault => rfl
  | ok store => exact IgnoresStore.part_store session store

end InStore

namespace Workspace

open InStore

/-- Directories are all that creating directories changes. -/
theorem OnlyCreates.keeps {γ : Type} (part : Session → γ) [IgnoresStore part]
    {paths : List String} {program : InStore (Except FileFault Unit)}
    (onlyCreates : OnlyCreates paths program) : Keeps part program := by
  intro session
  rw [(onlyCreates session).1]
  exact IgnoresStore.part_store session _

end Workspace
end BindingGen
