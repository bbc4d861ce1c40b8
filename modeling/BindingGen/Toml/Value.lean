import BindingGen.Decimal.Binary64

/-!
# TOML values

A document is a tree of values.  Tables keep their entries in the order of the document, and
each table remembers how it was written, because that decides how later lines may extend it.
-/

namespace BindingGen
namespace Toml

/-- How a table came into being. -/
inductive Style where
  /-- Between braces; nothing can be added to it. -/
  | inline
  /-- By a header of its own. -/
  | header
  /-- As a parent in the header of another table. -/
  | implied
  /-- By the keys with dots of its entries. -/
  | dotted
  deriving DecidableEq, Repr, Inhabited

/-- How an array came into being. -/
inductive ArrayStyle where
  /-- Between brackets; nothing can be added to it. -/
  | inline
  /-- By headers in double brackets. -/
  | headers
  deriving DecidableEq, Repr, Inhabited

inductive Value where
  | string (text : String)
  | integer (n : Int)
  | float (x : Binary64)
  | boolean (b : Bool)
  /-- A date, a time or both; nothing in this library depends on which. -/
  | datetime
  | array (style : ArrayStyle) (elements : List Value)
  | table (style : Style) (entries : List (String × Value))
  deriving Repr, Inhabited

/-- The entries of a table in the order of the document. -/
abbrev Entries := List (String × Value)

namespace Entries

/-- The value of a key. -/
def get? (entries : Entries) (key : String) : Option Value :=
  (entries.find? fun entry => entry.1 == key).map Prod.snd

/-- Replaces the value of a key that is there. -/
def replace (entries : Entries) (key : String) (value : Value) : Entries :=
  entries.map fun entry => if entry.1 == key then (key, value) else entry

/-- The entries without a key. -/
def erase (entries : Entries) (key : String) : Entries :=
  entries.filter fun entry => entry.1 != key

end Entries

end Toml
end BindingGen
