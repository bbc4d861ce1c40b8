import BindingGen.Files.Workspace
import BindingGen.Platform.CatalogToml

/-!
# Catalog files

A catalog file has to be there, to be a catalog document, and to break no rule of catalogs.
-/

namespace BindingGen
namespace Catalog

/-- Why a catalog file is not accepted. -/
inductive Fault where
  | notFound (path : String)
  | unreadable (fault : FileFault)
  | toml (fault : Toml.Fault)
  | invalid (issues : List Issue)
  deriving DecidableEq, Repr

def Fault.message : Fault → String
  | .notFound path => s!"no catalog at {path}"
  | .unreadable fault => s!"cannot read catalog: {fault.message}"
  | .toml fault => s!"invalid catalog TOML: {fault.message}"
  | .invalid issues => "invalid catalog: " ++ "; ".intercalate (issues.map Issue.text)

/-- The message of a fault and of its cause, which is told again. -/
def Fault.chain (fault : Fault) : List String :=
  match fault with
  | .notFound _ | .invalid _ => [fault.message]
  | .unreadable cause => [fault.message, cause.message]
  | .toml cause => [fault.message, cause.message]

/-- The catalog of a document, if it breaks no rule. -/
def ofValidToml (text : String) : Except Fault Catalog :=
  match ofToml text with
  | .error fault => .error (.toml fault)
  | .ok catalog =>
    match catalog.issues with
    | [] => .ok catalog
    | issues => .error (.invalid issues)

variable {m : Type → Type} [Monad m] [Workspace m]

def load (path : String) : m (Except Fault Catalog) := do
  if ← Workspace.leadsSomewhere path then
    match ← Workspace.readText path with
    | .error fault => return .error (.unreadable fault)
    | .ok text => return ofValidToml text
  else return .error (.notFound path)

end Catalog
end BindingGen
