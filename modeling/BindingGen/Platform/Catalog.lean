import BindingGen.Platform.Basic
import BindingGen.Text.Blank

/-!
# Platform catalogs

A catalog lists platforms in the order in which files are generated for them.  `issues` names
every rule that a catalog breaks, entry by entry; `select` keeps the entries with given ids.
-/

namespace BindingGen

abbrev Catalog := List Platform

namespace Catalog

inductive Rule where
  | noPlatforms
  | blankId
  | repeatedId
  | invalidConstant (constant : String)
  | repeatedConstant (constant : String)
  | blankFamilyId
  | invalidExtension (extension : String)
  deriving DecidableEq, Repr

def Rule.message : Rule → String
  | .noPlatforms => "catalog has no platforms"
  | .blankId => "platform id is empty"
  | .repeatedId => "duplicate platform id"
  | .invalidConstant constant => s!"constant '{constant}' is not a valid preprocessor symbol"
  | .repeatedConstant constant => s!"constant '{constant}' is used by another platform"
  | .blankFamilyId => "family id is empty"
  | .invalidExtension extension =>
    s!"library extension '{extension}' must be non-empty and have no leading dot"

/-- A broken rule, with the id of the entry that breaks it where that id can be named. -/
structure Issue where
  platform : Option String
  rule : Rule
  deriving DecidableEq, Repr

def Issue.text (issue : Issue) : String :=
  match issue.platform with
  | some id => s!"{id}: {issue.rule.message}"
  | none => issue.rule.message

def isBlankText (text : String) : Bool :=
  text.toList.all Text.isBlank

/-- The rules that an id breaks after the entries `before`. -/
def idIssues (before : List Platform) (p : Platform) : List Issue :=
  if isBlankText p.id then [⟨none, .blankId⟩]
  else if before.any fun q => q.id == p.id then [⟨some p.id, .repeatedId⟩]
  else []

/-- The rules that a constant breaks after the entries `before`. -/
def constantIssues (before : List Platform) (p : Platform) : List Issue :=
  if !Text.isIdentifier p.constant.toList then [⟨some p.id, .invalidConstant p.constant⟩]
  else if before.any fun q => q.constant == p.constant then
    [⟨some p.id, .repeatedConstant p.constant⟩]
  else []

def familyIssues (p : Platform) : List Issue :=
  if isBlankText p.family.id then [⟨some p.id, .blankFamilyId⟩] else []

def extensionIssues (p : Platform) : List Issue :=
  let extension := p.family.libraryExtension
  if extension.isEmpty || extension.toList.head? == some '.' then
    [⟨some p.id, .invalidExtension extension⟩]
  else []

/-- The rules that an entry breaks after the entries `before`. -/
def entryIssues (before : List Platform) (p : Platform) : List Issue :=
  idIssues before p ++ constantIssues before p ++ familyIssues p ++ extensionIssues p

/-- The rules that some entries break after the entries `before`. -/
def issuesAfter (before : List Platform) : List Platform → List Issue
  | [] => []
  | p :: rest => entryIssues before p ++ issuesAfter (before ++ [p]) rest

/-- Every broken rule of a catalog, in the order of its entries. -/
def issues (catalog : Catalog) : List Issue :=
  if catalog.isEmpty then [⟨none, .noPlatforms⟩] else issuesAfter [] catalog

/-- The first entry with an id. -/
def find? (catalog : Catalog) (id : String) : Option Platform :=
  List.find? (fun p => p.id == id) catalog

/-- A requested id that no entry has. -/
structure UnknownPlatform where
  id : String
  deriving DecidableEq, Repr

def UnknownPlatform.message (unknown : UnknownPlatform) : String :=
  s!"unknown platform '{unknown.id}'"

/-- The entry with an id, which has to exist. -/
def find (catalog : Catalog) (id : String) : Except UnknownPlatform Platform :=
  match catalog.find? id with
  | some p => .ok p
  | none => .error ⟨id⟩

/-- The entries whose ids are requested, in the order of the catalog. -/
def select (catalog : Catalog) (ids : List String) : Except UnknownPlatform Catalog :=
  match ids.find? fun id => (catalog.find? id).isNone with
  | some id => .error ⟨id⟩
  | none => .ok (catalog.filter fun p => ids.contains p.id)

end Catalog
end BindingGen
