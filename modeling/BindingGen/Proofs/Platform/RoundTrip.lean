import BindingGen.Platform.CatalogToml
import BindingGen.Proofs.Steps
import BindingGen.Proofs.Toml.Lines
import BindingGen.Proofs.Toml.Sections

/-!
# Catalogs are read back from their documents

The document of a catalog opens one element of an array for each platform, assigns its fields, and
does the same in a table for its family.  Reading builds the same tables from these lines, and
every field of a platform is found under the name that it was written with.
-/

namespace BindingGen

open Toml

/-! ## Tables of a catalog -/

/-- The lines of a document that assign some entries. -/
def assignments (entries : Entries) : List Statement :=
  entries.map fun field => .assign [field.1] field.2

namespace SystemFamily

/-- The entries of a family in a document. -/
def entries (family : SystemFamily) : Entries :=
  [("id", .string family.id), ("constant", .string family.constant),
    ("friendly-name", .string family.friendlyName),
    ("library-extension", .string family.libraryExtension)]

end SystemFamily

namespace Platform

/-- The entries of a platform in a document, before the table of its family. -/
def entries (p : Platform) : Entries :=
  [("id", .string p.id), ("constant", .string p.constant), ("is-64-bit", .boolean p.is64Bit),
    ("class-name", .string p.className)]

/-- The table of a platform in a document. -/
def table (p : Platform) : Value :=
  .table .header (p.entries ++ [("family", .table .header p.family.entries)])

@[simp]
theorem ofToml_table (p : Platform) : ofToml p.table = .ok p :=
  rfl

/-- The lines of a platform in a document. -/
def statements (p : Platform) : List Statement :=
  .openElement ["platforms"] :: assignments p.entries ++
    .openTable ["platforms", "family"] :: assignments p.family.entries

/-- A document whose last platform has some entries so far. -/
def documentWith (tables : List Value) (entries : Entries) : Entries :=
  [("platforms", .array .headers (tables ++ [.table .header entries]))]

theorem leads_platform (tables : List Value) : Leads ["platforms"] (documentWith tables) :=
  leads_root.element (Entries.lacks_nil "platforms") tables

theorem lacks_family (p : Platform) : p.entries.Lacks "family" := by
  simp [Entries.Lacks, entries]

theorem leads_family (p : Platform) (tables : List Value) :
    Leads ["platforms", "family"] fun inner =>
      documentWith tables (p.entries ++ [("family", .table .header inner)]) :=
  (leads_platform tables).table p.lacks_family

/-- The lines of a platform add its table to those that are there already. -/
theorem add_statements (p : Platform) (tables : List Value) (before : List String) :
    p.statements.foldlM Toml.Draft.add ⟨arrayEntry "platforms" tables, before⟩ =
      some ⟨arrayEntry "platforms" (tables ++ [p.table]), ["platforms", "family"]⟩ := by
  have opened : Toml.Draft.add ⟨arrayEntry "platforms" tables, before⟩
      (.openElement ["platforms"]) = some ⟨documentWith tables [], ["platforms"]⟩ :=
    leads_root.add_openElement (Entries.lacks_nil "platforms") tables before
  have assigned : (assignments p.entries).foldlM Toml.Draft.add
      ⟨documentWith tables [], ["platforms"]⟩ =
        some ⟨documentWith tables p.entries, ["platforms"]⟩ :=
    (leads_platform tables).add_fields (by simp [entries])
  have familyOpened : Toml.Draft.add ⟨documentWith tables p.entries, ["platforms"]⟩
      (.openTable ["platforms", "family"]) =
        some ⟨documentWith tables (p.entries ++ [("family", .table .header [])]),
          ["platforms", "family"]⟩ :=
    (leads_platform tables).add_openTable p.lacks_family _
  have familyAssigned : (assignments p.family.entries).foldlM Toml.Draft.add
      ⟨documentWith tables (p.entries ++ [("family", .table .header [])]),
        ["platforms", "family"]⟩ =
        some ⟨documentWith tables (p.entries ++ [("family", .table .header p.family.entries)]),
          ["platforms", "family"]⟩ :=
    (p.leads_family tables).add_fields (by simp [SystemFamily.entries])
  rw [statements, List.cons_append, List.foldlM_cons, opened, Option.bind_eq_bind, Option.bind_some,
    List.foldlM_append, assigned, Option.bind_eq_bind, Option.bind_some, List.foldlM_cons,
    familyOpened, Option.bind_eq_bind, Option.bind_some, familyAssigned,
    arrayEntry_append_singleton]
  rfl

end Platform

namespace Catalog

theorem add_statements (catalog : Catalog) (tables : List Value) (before : List String) :
    ∃ header, (catalog.flatMap Platform.statements).foldlM Toml.Draft.add
        ⟨arrayEntry "platforms" tables, before⟩ =
      some ⟨arrayEntry "platforms" (tables ++ catalog.map Platform.table), header⟩ := by
  induction catalog generalizing tables before with
  | nil => exact ⟨before, by simp⟩
  | cons p rest ih =>
      obtain ⟨header, added⟩ := ih (tables ++ [p.table]) ["platforms", "family"]
      refine ⟨header, ?_⟩
      rw [List.flatMap_cons, List.foldlM_append, p.add_statements]
      simpa using added

@[simp]
theorem entriesOf_statements (catalog : Catalog) :
    entriesOf (catalog.flatMap Platform.statements) =
      some (arrayEntry "platforms" (catalog.map Platform.table)) := by
  obtain ⟨header, added⟩ := catalog.add_statements [] []
  have start : arrayEntry "platforms" [] = [] := rfl
  rw [start] at added
  rw [entriesOf, added]
  simp

/-- The tables of a catalog are read as its platforms, in their order. -/
@[simp]
theorem readTable_tables (catalog : Catalog) :
    readTable (.table .header (arrayEntry "platforms" (catalog.map Platform.table))) =
      .ok catalog := by
  have each : (catalog.map Platform.table).mapM Platform.ofToml = .ok catalog := by
    induction catalog with
    | nil => rfl
    | cons p rest ih => simp [ih]
  cases catalog with
  | nil => rfl
  | cons p rest => exact each

/-! ## Lines of a catalog -/

theorem spells_field {name : String} (isName : IsBareName name) {text : List Char}
    {value : Value} (writes : Writes text value) :
    Spells (name.toList ++ [' ', '=', ' '] ++ text ++ ['\n']) [.assign [name] value] := by
  have line := @spells_assign [name] (by simpa using isName) (List.cons_ne_nil name [])
    (by simp [keyLimit]) text value writes
  simpa [keyText] using line

theorem spells_textLine (name text : String) (isName : IsBareName name) :
    Spells (textLine name text).toList [.assign [name] (.string text)] := by
  simpa [textLine] using spells_field isName (writes_string text)

theorem spells_booleanLine (name : String) (b : Bool) (isName : IsBareName name) :
    Spells (booleanLine name b).toList [.assign [name] (.boolean b)] := by
  simpa [booleanLine] using spells_field isName (writes_boolean b)

theorem spells_platformHeader : Spells "[[platforms]]\n".toList [.openElement ["platforms"]] :=
  @spells_openElement ["platforms"] (by decide) (by decide) (by decide)

theorem spells_familyHeader :
    Spells "\n[platforms.family]\n".toList [.openTable ["platforms", "family"]] :=
  spells_blank.append (@spells_openTable ["platforms", "family"] (by decide) (by decide) (by decide))

theorem spells_entryToml (p : Platform) : Spells (entryToml p).toList p.statements := by
  have platform := ((((spells_platformHeader.append
    (spells_textLine "id" p.id (by decide))).append
    (spells_textLine "constant" p.constant (by decide))).append
    (spells_booleanLine "is-64-bit" p.is64Bit (by decide))).append
    (spells_textLine "class-name" p.className (by decide)))
  have whole := ((((platform.append spells_familyHeader).append
    (spells_textLine "id" p.family.id (by decide))).append
    (spells_textLine "constant" p.family.constant (by decide))).append
    (spells_textLine "friendly-name" p.family.friendlyName (by decide))).append
    (spells_textLine "library-extension" p.family.libraryExtension (by decide))
  unfold entryToml
  simp only [String.toList_append]
  exact whole

@[simp]
theorem head?_entryToml (p : Platform) : (entryToml p).toList.head? = some '[' := by
  unfold entryToml
  simp only [String.toList_append]
  rfl

/-! ## Documents -/

theorem parse_toToml_of_ne_nil {catalog : Catalog} (filled : catalog ≠ []) :
    parse catalog.toToml = some (arrayEntry "platforms" (catalog.map Platform.table)) := by
  have text : catalog.toToml.toList =
      ['\n'].intercalate (catalog.map fun p => (entryToml p).toList) := by
    simp [toToml, filled, String.toList_intercalate, Function.comp_def]
  have spells := Spells.intercalate_blank spells_entryToml catalog
  rw [← text] at spells
  have noMark : catalog.toToml.toList.head? ≠ some '\uFEFF' := by
    obtain ⟨p, rest, rfl⟩ := List.exists_cons_of_ne_nil filled
    rw [text]
    cases rest <;> simp [List.intercalate_cons_cons]
  rw [spells.parse_eq noMark, entriesOf_statements]

@[simp]
theorem parse_toToml_nil :
    parse (toToml []) = some [("platforms", .array .inline [])] := by
  rfl

theorem ofToml_toToml_of_ne_nil {catalog : Catalog} (filled : catalog ≠ []) :
    ofToml catalog.toToml = .ok catalog := by
  unfold ofToml Toml.load
  rw [parse_toToml_of_ne_nil filled]
  simp only [readTable_tables]

/-- The document of a catalog is read as the same catalog, whatever its texts hold. -/
theorem ofToml_toToml (catalog : Catalog) : ofToml catalog.toToml = .ok catalog := by
  unfold ofToml Toml.load
  cases catalog with
  | nil => rw [parse_toToml_nil]; rfl
  | cons p rest =>
      rw [parse_toToml_of_ne_nil (List.cons_ne_nil p rest)]
      simp only [readTable_tables]

end Catalog
end BindingGen
