import BindingGen.Proofs.Files.Updates

/-!
# Creating nested directories

Creating a directory together with those around it is a run of single creations, each at the end
of the path or of one of its ancestors.  Such a run removes nothing: a place that it changes held
nothing before and is a directory afterwards.
-/

namespace BindingGen

/-! ## Running a program on a session -/

namespace InStore

-- These come before the library's equations for programs with a state, which leave a pair inside
-- of a further monad.
@[simp high]
theorem run_pure {α : Type} (value : α) (session : Session) :
    (pure value : InStore α).run session = (value, session) :=
  rfl

@[simp high]
theorem run_map {α β : Type} (f : α → β) (program : InStore α) (session : Session) :
    (f <$> program).run session = (f (program.run session).1, (program.run session).2) :=
  rfl

@[simp high]
theorem run_bind {α β : Type} (first : InStore α) (next : α → InStore β) (session : Session) :
    (first >>= next).run session =
      (next (first.run session).1).run (first.run session).2 :=
  rfl

/-- A run of two programs, one after the other, has a session between them. -/
theorem exists_of_run_bind {α β : Type} {first : InStore α} {next : α → InStore β}
    {session final : Session} {result : β}
    (ran : (first >>= next).run session = (result, final)) :
    ∃ value between, first.run session = (value, between) ∧
      (next value).run between = (result, final) :=
  ⟨_, _, rfl, ran⟩

@[simp]
theorem run_makeDirectory (path : String) (session : Session) :
    (Workspace.makeDirectory path : InStore _).run session =
      match session.store.makeDirectory session.current path with
      | .error fault => (.error fault, session)
      | .ok store => (.ok (), { session with store }) :=
  rfl

@[simp]
theorem run_isFile (path : String) (session : Session) :
    (Workspace.isFile path : InStore _).run session =
      (match session.store.look session.current path with
        | .ok (.file _) => true
        | _ => false,
        session) :=
  rfl

@[simp]
theorem run_isDirectory (path : String) (session : Session) :
    (Workspace.isDirectory path : InStore _).run session =
      (match session.store.look session.current path with
        | .ok .directory => true
        | _ => false,
        session) :=
  rfl

@[simp]
theorem run_writeBytes (path : String) (contents : ByteArray) (session : Session) :
    (Workspace.writeBytes path contents : InStore _).run session =
      match session.store.write session.current path contents with
      | .error fault => (.error fault, session)
      | .ok store => (.ok (), { session with store }) :=
  rfl

end InStore

/-! ## Runs of creations -/

namespace Store

/-- Directories were created one after another, each at the end of one of the given paths. -/
inductive Created (current : Place) (paths : List String) : Store → Store → Prop
  | none (store : Store) : Created current paths store store
  | next {first second third : Store} {path : String} :
      Created current paths first second → path ∈ paths →
        second.makeDirectory current path = .ok third → Created current paths first third

variable {current : Place} {paths : List String}

theorem Created.trans {first second third : Store} (earlier : Created current paths first second)
    (later : Created current paths second third) : Created current paths first third := by
  induction later with
  | none => exact earlier
  | next _ member made ih => exact ih.next member made

theorem Created.mono {more : List String} (subset : ∀ path ∈ paths, path ∈ more)
    {before after : Store} (created : Created current paths before after) :
    Created current more before after := by
  induction created with
  | none => exact .none _
  | next _ member made ih => exact ih.next (subset _ member) made

/-- A place that differs after a run of creations was empty, and one of the paths leads to the
directory that is there now. -/
theorem Created.find?_eq_or {before after : Store} (created : Created current paths before after)
    (place : Place) :
    after.find? place = before.find? place ∨
      before.find? place = .none ∧ after.find? place = some .directory ∧
        ∃ path ∈ paths, after.locate current path = .ok place := by
  induction created with
  | none => exact .inl rfl
  | @next second third path _ member made ih =>
      have updated := find?_of_makeDirectory made place
      by_cases atTarget : place = target current path
      · rw [if_pos atTarget] at updated
        have missing : second.find? place = .none := by
          rw [atTarget]
          exact (locateNew_eq_ok_iff.mp (makeDirectory_eq_ok_iff.mp made).1).2.2
        rcases ih with unchanged | ⟨-, isDirectory, -⟩
        · refine .inr ⟨unchanged ▸ missing, updated, path, member, ?_⟩
          rw [atTarget]
          exact locate_of_makeDirectory made
        · rw [missing] at isDirectory
          cases isDirectory
      · rw [if_neg atTarget] at updated
        rw [updated]
        rcases ih with unchanged | ⟨missing, isDirectory, other, otherMem, located⟩
        · exact .inl unchanged
        · exact .inr ⟨missing, isDirectory, other, otherMem,
            locate_of_keepsDirectories (keepsDirectories_of_makeDirectory made) located⟩

end Store

namespace Workspace

open InStore

/-- A program that only creates directories at the ends of some paths. -/
def OnlyCreates (paths : List String) (program : InStore (Except FileFault Unit)) : Prop :=
  ∀ session : Session,
    (program.run session).2 = { session with store := (program.run session).2.store } ∧
      Store.Created session.current paths session.store (program.run session).2.store

theorem onlyCreates_makeDirectory (path : String) :
    OnlyCreates [path] (makeDirectory path) := by
  intro session
  rw [run_makeDirectory]
  cases made : session.store.makeDirectory session.current path with
  | error fault => exact ⟨rfl, .none _⟩
  | ok store => exact ⟨rfl, (Store.Created.none _).next List.mem_cons_self made⟩

@[simp]
theorem run_ensureDirectory_snd (path : String) (session : Session) :
    ((ensureDirectory path : InStore _).run session).2 =
      ((makeDirectory path : InStore _).run session).2 := by
  unfold ensureDirectory
  rw [run_bind]
  split
  · rw [run_bind, run_pure, run_isDirectory]
  · rw [run_pure]

theorem onlyCreates_ensureDirectory (path : String) :
    OnlyCreates [path] (ensureDirectory path) := by
  intro session
  rw [run_ensureDirectory_snd]
  exact onlyCreates_makeDirectory path session

theorem OnlyCreates.mono {paths more : List String} (subset : ∀ path ∈ paths, path ∈ more)
    {program : InStore (Except FileFault Unit)} (onlyCreates : OnlyCreates paths program) :
    OnlyCreates more program :=
  fun session => ⟨(onlyCreates session).1, (onlyCreates session).2.mono subset⟩

theorem OnlyCreates.bind {paths : List String}
    {first : InStore (Except FileFault Unit)}
    {next : Except FileFault Unit → InStore (Except FileFault Unit)}
    (creates : OnlyCreates paths first) (continues : ∀ result, OnlyCreates paths (next result)) :
    OnlyCreates paths (first >>= next) := by
  intro session
  rw [run_bind]
  obtain ⟨kept, created⟩ := creates session
  obtain ⟨stillKept, further⟩ :=
    continues (first.run session).1 (first.run session).2
  have sameCurrent : (first.run session).2.current = session.current := by rw [kept]
  have sameEvents : (first.run session).2.events = session.events := by rw [kept]
  rw [sameCurrent] at further
  refine ⟨?_, created.trans further⟩
  rw [stillKept, sameCurrent, sameEvents]

theorem onlyCreates_pure (paths : List String) (result : Except FileFault Unit) :
    OnlyCreates paths (pure result) :=
  fun _ => ⟨rfl, .none _⟩

theorem onlyCreates_createNested (paths : List String) :
    OnlyCreates paths (createNested paths) := by
  induction paths with
  | nil => exact onlyCreates_pure [] (.ok ())
  | cons path outer ih =>
      have innermost : OnlyCreates (path :: outer) (ensureDirectory path) :=
        (onlyCreates_ensureDirectory path).mono (by simp)
      have around : OnlyCreates (path :: outer) (createNested outer) :=
        ih.mono fun _ member => List.mem_cons_of_mem path member
      unfold createNested
      refine innermost.bind fun first => ?_
      split
      · refine around.bind fun second => ?_
        split
        · exact onlyCreates_pure _ _
        · exact innermost
      · exact onlyCreates_pure _ _

theorem onlyCreates_createDirectories (path : String) :
    OnlyCreates (Path.ancestors path) (createDirectories path) :=
  (onlyCreates_createNested _).mono fun _ member => (List.mem_filter.mp member).1

theorem current_of_createDirectories {path : String} {session prepared : Session}
    {result : Except FileFault Unit}
    (created : (createDirectories path : InStore _).run session = (result, prepared)) :
    prepared.current = session.current := by
  have kept := (onlyCreates_createDirectories path session).1
  rw [created] at kept
  simpa using congrArg Session.current kept

end Workspace
end BindingGen
