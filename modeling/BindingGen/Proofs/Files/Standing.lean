import BindingGen.Proofs.Files.Reading

/-!
# Directories that stand

A directory that was created is found again by its path, also after further updates, and creating
it once more changes nothing.
-/

namespace BindingGen
namespace Store

/-- A path that leads somewhere cannot be the path of a new directory. -/
theorem makeDirectory_of_look {store : Store} {current : Place} {path : String} {node : Node}
    (looked : store.look current path = .ok node) :
    store.makeDirectory current path = .error .alreadyExists := by
  obtain ⟨located, found⟩ := look_eq_ok_iff.mp looked
  obtain ⟨started, followed⟩ := locate_eq_ok_iff.mp located
  obtain ⟨place, reached, last⟩ := follow_append_eq_ok_iff.mp followed
  have here : place = target current path := eq_resolve_of_follow reached
  subst here
  unfold makeDirectory locateNew
  rw [started]
  simp [reached, found]

theorem look_of_makeDirectory {store after : Store} {current : Place} {path : String}
    (made : store.makeDirectory current path = .ok after) :
    after.look current path = .ok .directory := by
  refine look_eq_ok_iff.mpr ⟨locate_of_makeDirectory made, ?_⟩
  rw [find?_of_makeDirectory made, if_pos rfl]

theorem look_of_keepsDirectories {before after : Store} (keeps : KeepsDirectories before after)
    {current : Place} {path : String} (looked : before.look current path = .ok .directory) :
    after.look current path = .ok .directory := by
  obtain ⟨located, found⟩ := look_eq_ok_iff.mp looked
  exact look_eq_ok_iff.mpr ⟨locate_of_keepsDirectories keeps located, keeps _ found⟩

end Store

namespace Workspace

open InStore Store

/-! ## The end of a path -/

/-- After a directory was ensured, its path leads to it. -/
theorem look_of_ensureDirectory {path : String} {session after : Session}
    (ensured : (ensureDirectory path : InStore _).run session = (.ok (), after)) :
    after.store.look session.current path = .ok .directory := by
  unfold ensureDirectory at ensured
  rw [run_bind, run_makeDirectory] at ensured
  cases made : session.store.makeDirectory session.current path with
  | ok store =>
      rw [made] at ensured
      cases ensured
      exact look_of_makeDirectory made
  | error fault =>
      rw [made] at ensured
      cases fault with
      | alreadyExists =>
          cases looked : session.store.look session.current path with
          | error cause =>
              simp only [run_bind, run_isDirectory, looked] at ensured
              cases ensured
          | ok node =>
              simp only [run_bind, run_isDirectory, looked] at ensured
              cases node with
              | file contents => cases ensured
              | directory =>
                  cases ensured
                  exact looked
      | _ => cases ensured

theorem run_ensureDirectory_of_look {path : String} {session : Session}
    (looked : session.store.look session.current path = .ok .directory) :
    (ensureDirectory path : InStore _).run session = (.ok (), session) := by
  simp [ensureDirectory, makeDirectory_of_look looked, looked]

/-! ## Nested directories -/

theorem look_of_createNested {path : String} {outer : List String} {session after : Session}
    (created : (createNested (path :: outer) : InStore _).run session = (.ok (), after)) :
    after.store.look session.current path = .ok .directory := by
  unfold createNested at created
  obtain ⟨result, between, first, created⟩ := exists_of_run_bind created
  cases result with
  | ok =>
      cases created
      exact look_of_ensureDirectory first
  | error fault =>
      cases fault with
      | notFound =>
          obtain ⟨outcome, prepared, second, created⟩ := exists_of_run_bind created
          cases outcome with
          | error cause => cases created
          | ok =>
              have kept := (onlyCreates_ensureDirectory path).keeps Session.current session
              have stillKept := (onlyCreates_createNested outer).keeps Session.current between
              rw [first] at kept
              rw [second] at stillKept
              rw [← kept, ← stillKept]
              exact look_of_ensureDirectory created
      | _ => cases created

theorem run_createNested_of_look {path : String} (outer : List String) {session : Session}
    (looked : session.store.look session.current path = .ok .directory) :
    (createNested (path :: outer) : InStore _).run session = (.ok (), session) := by
  simp [createNested, run_ensureDirectory_of_look looked]

/-- A path whose directories are to be created is first itself, unless nothing is to be done. -/
theorem ancestors_filter_eq (path : String) :
    ((Path.ancestors path).filter fun p => (Path.parent? p).isSome) = [] ∨
      ∃ outer, ((Path.ancestors path).filter fun p => (Path.parent? p).isSome) =
        path :: outer := by
  unfold Path.ancestors
  cases parent : Path.parent? path with
  | some directory => exact .inr ⟨_, by simp only [List.filter_cons, parent]; rfl⟩
  | none =>
      left
      cases Path.segments path <;> simp [Path.parentsWithin, parent]

/-- Creating directories that were created before changes nothing, whatever else has been put
into the store since then. -/
theorem run_createDirectories_again {path : String} {session prepared later : Session}
    (created : (createDirectories path : InStore _).run session = (.ok (), prepared))
    (keeps : KeepsDirectories prepared.store later.store)
    (sameCurrent : later.current = session.current) :
    (createDirectories path : InStore _).run later = (.ok (), later) := by
  unfold createDirectories at created ⊢
  rcases ancestors_filter_eq path with nothing | ⟨outer, shape⟩
  · rw [nothing]
    rfl
  · rw [shape] at created ⊢
    refine run_createNested_of_look outer ?_
    rw [sameCurrent]
    exact look_of_keepsDirectories keeps (look_of_createNested created)

end Workspace
end BindingGen
