import BindingGen.Toml.Extend

/-!
# Documents built section by section

A header leads to one table of a document, and the keys after it add their entries to that table
and change nothing else.  A table or an element that is opened directly inside a table where its
key is new is led to by a header that is longer by that key.
-/

namespace BindingGen
namespace Toml

/-! ## Entries with new keys -/

namespace Entries

/-- No entry has a key. -/
def Lacks (entries : Entries) (key : String) : Prop :=
  ∀ entry ∈ entries, entry.1 ≠ key

theorem lacks_nil (key : String) : Lacks [] key :=
  fun _ member => absurd member List.not_mem_nil

variable {entries : Entries} {key : String}

theorem Lacks.get? (lacks : entries.Lacks key) : entries.get? key = none := by
  have missing : entries.find? (fun entry => entry.1 == key) = none :=
    List.find?_eq_none.mpr fun entry member => by simpa using lacks entry member
  rw [Entries.get?, missing, Option.map_none]

theorem Lacks.get?_append (lacks : entries.Lacks key) (value : Value) :
    Entries.get? (entries ++ [(key, value)]) key = some value := by
  have missing : entries.find? (fun entry => entry.1 == key) = none :=
    List.find?_eq_none.mpr fun entry member => by simpa using lacks entry member
  simp [Entries.get?, missing]

theorem Lacks.replace_append (lacks : entries.Lacks key) (value other : Value) :
    replace (entries ++ [(key, value)]) key other = entries ++ [(key, other)] := by
  have kept : entries.replace key other = entries := by
    refine (List.map_congr_left fun entry member => ?_).trans (List.map_id entries)
    simp [lacks entry member]
  rw [replace, List.map_append]
  change entries.replace key other ++ _ = _
  rw [kept]
  simp

end Entries

/-! ## Headers -/

/-- A header leads to a table of a document: `put` gives the document for any entries of that
table, and a change at the end of the header changes these entries alone. -/
def Leads (header : List String) (put : Entries → Entries) : Prop :=
  ∀ entries change, descend false change header .header (put entries) =
    (change .header entries).map put

theorem descend_append (byKeys : Bool) (change : Style → Entries → Option Entries)
    (first second : List String) (style : Style) (entries : Entries) :
    descend byKeys change (first ++ second) style entries =
      descend byKeys (descend byKeys change second) first style entries := by
  induction first generalizing style entries with
  | nil => rfl
  | cons key first ih => simp only [List.cons_append, descend, ih]

theorem leads_root : Leads [] id := by
  intro entries change
  simp [descend]

variable {header : List String} {put : Entries → Entries} {entries : Entries} {key : String}

/-- The header of a table inside the table that a header leads to. -/
theorem Leads.table (leads : Leads header put) (lacks : entries.Lacks key) :
    Leads (header ++ [key]) fun inner => put (entries ++ [(key, .table .header inner)]) := by
  intro inner change
  rw [descend_append, leads]
  simp only [descend, lacks.get?_append]
  cases change .header inner <;> simp [lacks.replace_append]

/-- The header of an array of tables leads to its last element. -/
theorem Leads.element (leads : Leads header put) (lacks : entries.Lacks key)
    (elements : List Value) :
    Leads (header ++ [key]) fun inner =>
      put (entries ++ [(key, .array .headers (elements ++ [.table .header inner]))]) := by
  intro inner change
  rw [descend_append, leads]
  simp only [descend, lacks.get?_append]
  cases changed : change .header inner <;> simp [changed, lacks.replace_append]

/-! ## Lines after a header -/

/-- The keys after a header add their entries to its table, as long as each key is new there. -/
theorem Leads.add_fields (leads : Leads header put) {fields : Entries}
    (apart : ((entries ++ fields).map Prod.fst).Nodup) :
    (fields.map fun field => Statement.assign [field.1] field.2).foldlM Draft.add
        ⟨put entries, header⟩ =
      some ⟨put (entries ++ fields), header⟩ := by
  induction fields generalizing entries with
  | nil => simp
  | cons field fields ih =>
      have lacks : entries.Lacks field.1 := by
        intro entry member same
        rw [List.map_append, List.nodup_append] at apart
        exact apart.2.2 entry.1 (List.mem_map_of_mem member) field.1 (by simp) same
      have step : Draft.add ⟨put entries, header⟩ (.assign [field.1] field.2) =
          some ⟨put (entries ++ [field]), header⟩ := by
        rw [Draft.add, leads]
        simp [assign, descend, addEntry, lacks.get?]
      rw [List.map_cons, List.foldlM_cons, step]
      simpa using @ih (entries ++ [field]) (by simpa using apart)

theorem Leads.add_openTable (leads : Leads header put) (lacks : entries.Lacks key)
    (before : List String) :
    Draft.add ⟨put entries, before⟩ (.openTable (header ++ [key])) =
      some ⟨put (entries ++ [(key, .table .header [])]), header ++ [key]⟩ := by
  simp [Draft.add, leads entries, addTable, lacks.get?]

/-- The entry of an array of tables, which is there once it has an element. -/
def arrayEntry (key : String) (elements : List Value) : Entries :=
  if elements.isEmpty then [] else [(key, .array .headers elements)]

@[simp]
theorem arrayEntry_append_singleton (key : String) (elements : List Value) (last : Value) :
    arrayEntry key (elements ++ [last]) = [(key, .array .headers (elements ++ [last]))] := by
  simp [arrayEntry]

theorem Leads.add_openElement (leads : Leads header put) (lacks : entries.Lacks key)
    (elements : List Value) (before : List String) :
    Draft.add ⟨put (entries ++ arrayEntry key elements), before⟩
        (.openElement (header ++ [key])) =
      some ⟨put (entries ++ [(key, .array .headers (elements ++ [.table .header []]))]),
        header ++ [key]⟩ := by
  cases elements with
  | nil => simp [Draft.add, leads entries, arrayEntry, addElement, lacks.get?]
  | cons first others =>
      have led := leads (entries ++ [(key, .array .headers (first :: others))]) (addElement key)
      simp [Draft.add, led, arrayEntry, addElement, lacks.get?_append, lacks.replace_append]

end Toml
end BindingGen
