import BindingGen.Proofs.CommandLine.Outcomes
import BindingGen.Proofs.Platform.RoundTrip
import Mathlib.Data.List.Nodup

/-!
# Descriptions that are used again

The description of a platform as a document is a catalog of its own.  Saved in a file, it is
loaded as the catalog of just that platform, and a manifest that only names the file leads to the
standard settings for that platform.
-/

namespace BindingGen

open InStore

/-! ## Catalog files -/

namespace Catalog

theorem ofValidToml_toToml {catalog : Catalog} (valid : catalog.Valid) :
    ofValidToml catalog.toToml = .ok catalog := by
  unfold ofValidToml
  rw [ofToml_toToml_of_ne_nil valid.filled]
  simp only [issues_eq_nil_iff.mpr valid]

theorem run_load_of_read {session : Session} {path text : String}
    (holds : session.store.read session.current path = .ok text.toUTF8) :
    (load path : InStore _).run session = (ofValidToml text, session) := by
  have present : (Workspace.leadsSomewhere path : InStore Bool).run session = (true, session) := by
    simp [Workspace.leadsSomewhere, run_isFile_of_hasFile ⟨_, holds⟩]
  have decoded : String.fromUTF8? text.toUTF8 = some text := dif_pos text.isValidUTF8
  have isText : session.store.text session.current path = .ok text := by
    simp only [Store.text, holds, decoded, ok_bind]
  simp [load, present, isText]

theorem find?_eq_some_iff {catalog : Catalog} (idsApart : (catalog.map Platform.id).Nodup)
    {id : String} {p : Platform} : catalog.find? id = some p ↔ p ∈ catalog ∧ p.id = id := by
  constructor
  · intro found
    exact ⟨List.mem_of_find?_eq_some found, by simpa using List.find?_some found⟩
  · rintro ⟨member, same⟩
    cases found : catalog.find? id with
    | none => exact absurd same (find?_isNone_iff.mp (by rw [found]; rfl) p member)
    | some q =>
        have qSame : q.id = id := by simpa using List.find?_some found
        have qMember : q ∈ catalog := List.mem_of_find?_eq_some found
        rw [List.inj_on_of_nodup_map idsApart qMember member (qSame.trans same.symm)]

end Catalog

/-! ## Manifests that name a catalog -/

namespace Manifest

/-- The manifest that sets the path of a catalog and nothing else. -/
def ofCatalog (path : String) : Manifest :=
  { Manifest.empty with targets := ⟨none, some path⟩ }

theorem ofToml_of_parse {document path : String} {style : Toml.Style}
    (parsed : Toml.parse document =
      some [("targets", .table style [("catalog", .string path)])]) :
    ofToml document = .ok (ofCatalog path) := by
  unfold ofToml Toml.load
  rw [parsed]
  rfl

@[simp]
theorem settingsWith_ofCatalog (path : String) (catalog : Catalog) :
    (ofCatalog path).settingsWith catalog =
      .ok { Settings.standard with platforms := catalog } := by
  have accepted : Settings.standard.validate = .ok () := rfl
  have sameNames : ({ Settings.standard with platforms := catalog } : Settings).validate =
      Settings.standard.validate := rfl
  exact settingsWith_eq_ok_iff.mpr ⟨catalog, rfl, rfl, sameNames.trans accepted⟩

theorem run_resolve_ofCatalog {session : Session} {base path : String} {catalog : Catalog}
    (loaded : (Catalog.load (Path.join base path) : InStore _).run session =
      (.ok catalog, session)) :
    ∃ final, ((ofCatalog path).resolve base : InStore _).run session =
      (.ok { Settings.standard with platforms := catalog }, final) := by
  have catalogLoaded : ((ofCatalog path).loadCatalog base : InStore _).run session =
      (.ok catalog, session) := by
    simp [loadCatalog, ofCatalog, loaded]
  simp [resolve, catalogLoaded]

end Manifest

/-! ## Descriptions -/

namespace CommandLine

section Described

variable {options : Options} {session loaded : Session} {s : Settings} {id : String}

/-- Describing a platform as a document prints the document. -/
theorem perform_describe_of_find {p : Platform}
    (found : (loadSettings options.manifest : InStore _).run session = (.ok s, loaded))
    (search : s.platforms.find? id = some p) :
    (perform options (.describeTarget id (some "toml"))).run session =
      (⟨0, Catalog.toToml [p], ""⟩, loaded.tell (.printed (Catalog.toToml [p]))) := by
  have ended : (execute s (.describeTarget id (some "toml")) : InStore _).run loaded =
      (.ok (), loaded.tell (.printed (Catalog.toToml [p]))) := by
    simp [execute, describe, search]
  have whole : String.join [Catalog.toToml [p]] = Catalog.toToml [p] := by simp [String.join]
  rw [run_perform_of_ok found ended (Session.printed_tell_printed loaded _), Result.of, whole]

theorem perform_describe_of_unknown
    (found : (loadSettings options.manifest : InStore _).run session = (.ok s, loaded))
    (missing : s.platforms.find? id = none) (format : Option String) :
    (perform options (.describeTarget id format)).run session =
      (⟨1, "", (Fault.unknownTarget id).text⟩, loaded) := by
  have ended : (execute s (.describeTarget id format) : InStore _).run loaded =
      (.error (.unknownTarget id), loaded) := by
    simp [execute, describe, missing]
  exact run_perform_of_ok found ended (List.append_nil _).symm

end Described

/-- With settings that a command has loaded, describing a platform as a document succeeds exactly
for the ids of its platforms; it prints the document and does nothing else, or nothing at all.  A
file that holds what was printed is loaded as the catalog of that one platform, and a manifest that
names the file and sets nothing else leads to the standard settings with this platform only. -/
theorem descriptions_are_loaded_again (options : Options) (session loaded : Session)
    (s : Settings) (id : String)
    (found : (loadSettings options.manifest : InStore _).run session = (.ok s, loaded)) :
    ((∃ text, (perform options (.describeTarget id (some "toml"))).run session =
        (⟨0, text, ""⟩, loaded.tell (.printed text))) ↔ ∃ p ∈ s.platforms, p.id = id) ∧
      ((∀ p ∈ s.platforms, p.id ≠ id) →
        (perform options (.describeTarget id (some "toml"))).run session =
          (⟨1, "", (Fault.unknownTarget id).text⟩, loaded)) ∧
      ∀ text final, (perform options (.describeTarget id (some "toml"))).run session =
          (⟨0, text, ""⟩, final) →
        ∃ p, (∀ q, q ∈ s.platforms ∧ q.id = id ↔ q = p) ∧
          ∀ (saved : Session) (base name : String),
            saved.store.read saved.current (Path.join base name) = .ok text.toUTF8 →
              (Catalog.load (Path.join base name) : InStore _).run saved = (.ok [p], saved) ∧
              ∀ document style,
                Toml.parse document =
                    some [("targets", .table style [("catalog", .string name)])] →
                  ∃ manifest resolved, Manifest.ofToml document = .ok manifest ∧
                    (manifest.resolve base : InStore _).run saved =
                      (.ok { Settings.standard with platforms := [p] }, resolved) := by
  have consistent := consistent_of_loadSettings found
  have isFound {p : Platform} : s.platforms.find? id = some p ↔ p ∈ s.platforms ∧ p.id = id :=
    Catalog.find?_eq_some_iff consistent.idsApart
  refine ⟨?_, ?_, ?_⟩
  · constructor
    · rintro ⟨text, performed⟩
      cases search : s.platforms.find? id with
      | none =>
          rw [perform_describe_of_unknown found search] at performed
          cases performed
      | some p => exact ⟨p, isFound.mp search⟩
    · rintro ⟨p, isMember⟩
      exact ⟨_, perform_describe_of_find found (isFound.mpr isMember)⟩
  · intro absent
    have missing : s.platforms.find? id = none := by
      rw [Option.eq_none_iff_forall_ne_some]
      exact fun p search => absent p (isFound.mp search).1 (isFound.mp search).2
    exact perform_describe_of_unknown found missing _
  · intro text final performed
    cases search : s.platforms.find? id with
    | none =>
        rw [perform_describe_of_unknown found search] at performed
        cases performed
    | some p =>
        rw [perform_describe_of_find found search] at performed
        cases performed
        obtain ⟨member, same⟩ := isFound.mp search
        refine ⟨p, fun q => ?_, fun saved base name holds => ?_⟩
        · rw [← isFound, search, Option.some.injEq, eq_comm]
        · have loadedAgain : (Catalog.load (Path.join base name) : InStore _).run saved =
              (.ok [p], saved) := by
            rw [Catalog.run_load_of_read holds,
              Catalog.ofValidToml_toToml (consistent.valid_singleton member)]
          refine ⟨loadedAgain, fun document style parsed => ?_⟩
          obtain ⟨resolved, ran⟩ := Manifest.run_resolve_ofCatalog loadedAgain
          exact ⟨_, resolved, Manifest.ofToml_of_parse parsed, ran⟩

theorem exists_run_namedSettings_of_catalog {session : Session} {path base name : String}
    {catalog : Catalog} (inBase : Path.parent? path = some base)
    (read : Manifest.inStore session.store session.current path =
      .ok (Manifest.ofCatalog name))
    (loaded : (Catalog.load (Path.join base name) : InStore _).run session =
      (.ok catalog, session)) :
    ∃ final, (namedSettings path : InStore _).run session =
      (.ok { Settings.standard with platforms := catalog }, final) := by
  obtain ⟨final, resolved⟩ := Manifest.run_resolve_ofCatalog loaded
  exact ⟨final, by simp [namedSettings, read, inBase, resolved]⟩

/-- A platform whose texts need escapes in a document. -/
def quotedPlatform : Platform :=
  ⟨"odd \"x64\"", "ODD_X64", ⟨"odd", "ODD", "Odd\n\\ '''OS'''", "so"⟩, true, "Odd64"⟩

/-- A store with a manifest that names a catalog of that platform and a built-in one. -/
def quotedStore : Store :=
  ⟨[(["nativecalls.toml"], .file "[targets]\ncatalog = \"odd.toml\"\n".toUTF8),
    (["odd.toml"], .file (Catalog.toToml (quotedPlatform :: Platform.builtin.take 1)).toUTF8)]⟩

/-- A store with the description of that platform. -/
def describedStore : Store :=
  ⟨[(["one.toml"], .file (Catalog.toToml [quotedPlatform]).toUTF8)]⟩

/-- The description of a platform whose texts need escapes is loaded as that platform. -/
theorem descriptions_quotedPlatform_are_loaded_again :
    ∃ text final manifest resolved,
      (perform ⟨0, some "nativecalls.toml"⟩ (.describeTarget quotedPlatform.id (some "toml"))).run
          ⟨quotedStore, [], []⟩ = (⟨0, text, ""⟩, final) ∧
        (Catalog.load "one.toml" : InStore _).run ⟨describedStore, [], []⟩ =
          (.ok [quotedPlatform], ⟨describedStore, [], []⟩) ∧
        Manifest.ofToml "targets.catalog = 'one.toml'" = .ok manifest ∧
        (manifest.resolve "" : InStore _).run ⟨describedStore, [], []⟩ =
          (.ok { Settings.standard with platforms := [quotedPlatform] }, resolved) := by
  have valid : Catalog.Valid (quotedPlatform :: Platform.builtin.take 1) :=
    Catalog.issues_eq_nil_iff.mp (by decide +kernel)
  have inCatalog : (Catalog.load (Path.join "" "odd.toml") : InStore _).run
      ⟨quotedStore, [], []⟩ =
        (.ok (quotedPlatform :: Platform.builtin.take 1), ⟨quotedStore, [], []⟩) := by
    rw [Catalog.run_load_of_read rfl, Catalog.ofValidToml_toToml valid]
  have read : Manifest.inStore quotedStore [] "nativecalls.toml" =
      .ok (Manifest.ofCatalog "odd.toml") := rfl
  have inBase : Path.parent? "nativecalls.toml" = some "" := rfl
  obtain ⟨loaded, found⟩ := exists_run_namedSettings_of_catalog inBase read inCatalog
  obtain ⟨-, -, again⟩ := descriptions_are_loaded_again ⟨0, some "nativecalls.toml"⟩
    ⟨quotedStore, [], []⟩ loaded _ quotedPlatform.id found
  have search : Catalog.find? (quotedPlatform :: Platform.builtin.take 1) quotedPlatform.id =
      some quotedPlatform := by simp [Catalog.find?]
  have performed : (perform ⟨0, some "nativecalls.toml"⟩
      (.describeTarget quotedPlatform.id (some "toml"))).run ⟨quotedStore, [], []⟩ =
        (⟨0, Catalog.toToml [quotedPlatform], ""⟩,
          loaded.tell (.printed (Catalog.toToml [quotedPlatform]))) :=
    perform_describe_of_find found search
  obtain ⟨p, isOnly, loadedAgain⟩ := again _ _ performed
  obtain rfl : quotedPlatform = p := (isOnly quotedPlatform).mp ⟨by simp, rfl⟩
  obtain ⟨inCatalog, named⟩ := loadedAgain ⟨describedStore, [], []⟩ "" "one.toml" rfl
  have parsed : Toml.parse "targets.catalog = 'one.toml'" =
      some [("targets", .table .dotted [("catalog", .string "one.toml")])] := rfl
  obtain ⟨manifest, resolved, isManifest, ran⟩ := named _ _ parsed
  exact ⟨_, _, manifest, resolved, performed, inCatalog, isManifest, ran⟩

end CommandLine
end BindingGen
