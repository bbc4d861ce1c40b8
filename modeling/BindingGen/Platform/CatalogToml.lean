import BindingGen.Platform.Catalog
import BindingGen.Toml.Shape

/-!
# Catalogs as TOML documents

A catalog file is an array of tables `platforms`, each with a table for its family.  Writing a
catalog and reading the text again gives the same catalog, whatever characters its texts hold.
-/

namespace BindingGen

open Toml (ShapeFault Value)

/-! ## Reading -/

namespace SystemFamily

/-- A family of which some fields have been read. -/
structure Draft where
  id : Option String
  constant : Option String
  friendlyName : Option String
  libraryExtension : Option String
  deriving Repr

def fieldNames : List String :=
  ["id", "constant", "friendly-name", "library-extension"]

def Draft.add (draft : Draft) (field : String × Value) : Except ShapeFault Draft :=
  match field.1 with
  | "id" => (field.2.readText "a string").map fun text => { draft with id := some text }
  | "constant" =>
    (field.2.readText "a string").map fun text => { draft with constant := some text }
  | "friendly-name" =>
    (field.2.readText "a string").map fun text => { draft with friendlyName := some text }
  | "library-extension" =>
    (field.2.readText "a string").map fun text => { draft with libraryExtension := some text }
  | _ => .ok draft

def ofToml (value : Value) : Except ShapeFault SystemFamily := do
  let fields ← value.readFields "OsFamily" fieldNames
  let draft ← fields.foldlM Draft.add ⟨none, none, none, none⟩
  let missing := fun name => value.missing "OsFamily" fieldNames name
  match draft.id, draft.constant, draft.friendlyName, draft.libraryExtension with
  | none, _, _, _ => .error (missing "id")
  | _, none, _, _ => .error (missing "constant")
  | _, _, none, _ => .error (missing "friendly-name")
  | _, _, _, none => .error (missing "library-extension")
  | some id, some constant, some friendlyName, some libraryExtension =>
    .ok ⟨id, constant, friendlyName, libraryExtension⟩

end SystemFamily

namespace Platform

/-- A platform of which some fields have been read. -/
structure Draft where
  id : Option String
  constant : Option String
  family : Option SystemFamily
  is64Bit : Option Bool
  className : Option String
  deriving Repr

def fieldNames : List String :=
  ["id", "constant", "family", "is-64-bit", "class-name"]

def Draft.add (draft : Draft) (field : String × Value) : Except ShapeFault Draft :=
  match field.1 with
  | "id" => (field.2.readText "a string").map fun text => { draft with id := some text }
  | "constant" =>
    (field.2.readText "a string").map fun text => { draft with constant := some text }
  | "family" =>
    (SystemFamily.ofToml field.2).map fun family => { draft with family := some family }
  | "is-64-bit" => field.2.readBoolean.map fun wide => { draft with is64Bit := some wide }
  | "class-name" =>
    (field.2.readText "a string").map fun text => { draft with className := some text }
  | _ => .ok draft

def ofToml (value : Value) : Except ShapeFault Platform := do
  let fields ← value.readFields "PlatformDescriptor" fieldNames
  let draft ← fields.foldlM Draft.add ⟨none, none, none, none, none⟩
  let missing := fun name => value.missing "PlatformDescriptor" fieldNames name
  match draft.id, draft.constant, draft.family, draft.is64Bit, draft.className with
  | none, _, _, _, _ => .error (missing "id")
  | _, none, _, _, _ => .error (missing "constant")
  | _, _, none, _, _ => .error (missing "family")
  | _, _, _, none, _ => .error (missing "is-64-bit")
  | _, _, _, _, none => .error (missing "class-name")
  | some id, some constant, some family, some is64Bit, some className =>
    .ok ⟨id, constant, family, is64Bit, className⟩

end Platform

namespace Catalog

/-- Reads the table of a catalog file, in which no entry stands for no platforms. -/
def readTable (value : Value) : Except ShapeFault Catalog := do
  let fields ← value.readFields "CatalogFile" ["platforms"]
  match fields.get? "platforms" with
  | some platforms => platforms.readArray Platform.ofToml
  | none => .ok []

/-- The catalog of a TOML document. -/
def ofToml (text : String) : Except Toml.Fault Catalog :=
  Toml.load readTable text

/-! ## Writing -/

/-- The line of a field that holds a text. -/
def textLine (name text : String) : String :=
  name ++ " = " ++ String.ofList (Toml.Quoted.write text.toList) ++ "\n"

/-- The line of a field that holds a truth value. -/
def booleanLine (name : String) (b : Bool) : String :=
  name ++ " = " ++ (if b then "true" else "false") ++ "\n"

/-- The tables of one platform. -/
def entryToml (p : Platform) : String :=
  "[[platforms]]\n" ++ textLine "id" p.id ++ textLine "constant" p.constant ++
    booleanLine "is-64-bit" p.is64Bit ++ textLine "class-name" p.className ++
    "\n[platforms.family]\n" ++ textLine "id" p.family.id ++
    textLine "constant" p.family.constant ++ textLine "friendly-name" p.family.friendlyName ++
    textLine "library-extension" p.family.libraryExtension

/-- A catalog as a TOML document. -/
def toToml (catalog : Catalog) : String :=
  if catalog.isEmpty then "platforms = []\n" else "\n".intercalate (catalog.map entryToml)

end Catalog
end BindingGen
