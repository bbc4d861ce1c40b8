import BindingGen.Toml.Value

/-!
# Building a document from its lines

A header opens a table, and the keys after it add entries to that table.  No table is opened
twice, no key is given twice, and keys with dots cannot reach into a table that has a header of
its own.
-/

namespace BindingGen
namespace Toml

/-- A line of a document that says something. -/
inductive Statement where
  /-- The header of a table. -/
  | openTable (path : List String)
  /-- The header of one more element of an array of tables. -/
  | openElement (path : List String)
  /-- A key, split at its dots, and its value. -/
  | assign (path : List String) (value : Value)
  deriving Repr, Inhabited

/-- Changes the table at the end of a path.  Tables that are missing on the way are created; of
an array of tables the last element is entered.  A path made of keys with dots does not enter
tables that have a header. -/
def descend (byKeys : Bool) (change : Style → Entries → Option Entries) :
    List String → Style → Entries → Option Entries
  | [], style, entries => change style entries
  | key :: path, _, entries =>
    match entries.get? key with
    | none =>
      let style := if byKeys then Style.dotted else Style.implied
      match descend byKeys change path style [] with
      | some inner => some (entries ++ [(key, .table style inner)])
      | none => none
    | some (.table style inner) =>
      if style = .inline || (byKeys && style = .header) then none
      else
        match descend byKeys change path style inner with
        | some inner => some (entries.replace key (.table style inner))
        | none => none
    | some (.array .headers elements) =>
      match elements.getLast? with
      | some (.table style inner) =>
        match descend byKeys change path style inner with
        | some inner =>
          some (entries.replace key (.array .headers (elements.dropLast ++ [.table style inner])))
        | none => none
      | _ => none
    | some _ => none

/-- Adds an entry with a new key.  A key with dots ends in a table made by such keys, and any
other key in a table that was not. -/
def addEntry (dots : Bool) (key : String) (value : Value) (style : Style) (entries : Entries) :
    Option Entries :=
  if (style == .dotted) != dots then none
  else if (entries.get? key).isSome then none
  else some (entries ++ [(key, value)])

/-- Opens a table by its header.  A table that was only implied before moves to the end. -/
def addTable (key : String) (_ : Style) (entries : Entries) : Option Entries :=
  match entries.get? key with
  | none => some (entries ++ [(key, .table .header [])])
  | some (.table .implied inner) => some (entries.erase key ++ [(key, .table .header inner)])
  | some _ => none

/-- Opens one more element of an array of tables. -/
def addElement (key : String) (_ : Style) (entries : Entries) : Option Entries :=
  match entries.get? key with
  | none => some (entries ++ [(key, .array .headers [.table .header []])])
  | some (.array .headers elements) =>
    some (entries.replace key (.array .headers (elements ++ [.table .header []])))
  | some _ => none

/-- Adds the value of a key with or without dots to a table. -/
def assign (path : List String) (value : Value) (style : Style) (entries : Entries) :
    Option Entries :=
  match path.getLast? with
  | none => none
  | some key => descend true (addEntry (1 < path.length) key value) path.dropLast style entries

/-- A document as far as it has been read: its entries and the header in force. -/
structure Draft where
  entries : Entries
  header : List String
  deriving Repr, Inhabited

def Draft.add (draft : Draft) : Statement → Option Draft
  | .openTable path =>
    match path.getLast? with
    | none => none
    | some key =>
      (descend false (addTable key) path.dropLast .header draft.entries).map (⟨·, path⟩)
  | .openElement path =>
    match path.getLast? with
    | none => none
    | some key =>
      (descend false (addElement key) path.dropLast .header draft.entries).map (⟨·, path⟩)
  | .assign path value =>
    (descend false (assign path value) draft.header .header draft.entries).map
      (⟨·, draft.header⟩)

/-- The entries of a document that consists of some lines. -/
def entriesOf (statements : List Statement) : Option Entries :=
  (statements.foldlM Draft.add ⟨[], []⟩).map Draft.entries

/-- The entries of a table between braces. -/
def inlineEntries (pairs : List (List String × Value)) : Option Entries :=
  pairs.foldlM (fun entries pair => assign pair.1 pair.2 .header entries) []

end Toml
end BindingGen
