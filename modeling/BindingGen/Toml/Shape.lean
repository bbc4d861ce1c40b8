import BindingGen.Text.Literal
import BindingGen.Toml.Reader

/-!
# The shape of a document

A program reads a document into records whose fields have types.  Fields are read in the order
of the document and unknown ones are ignored, so the first value of a wrong type is the one
reported, and a missing field only when every field that is there could be read.  A record may
also be given as an array of its fields in the order of their declaration.
-/

namespace BindingGen
namespace Toml

/-- Why a document does not have the shape of a record. -/
inductive ShapeFault where
  | missingField (name : String)
  | unexpectedType (found expected : String)
  /-- A record given as an array with too few elements. -/
  | tooShort (length : Nat) (record : String) (fields : Nat)
  | unknownVariant (found : String) (variants : List String)
  /-- A value that cannot name a variant. -/
  | noVariant
  /-- A table that names no variant. -/
  | emptyVariant
  /-- A table that names more than one variant. -/
  | manyVariants
  /-- A table that names a variant but holds something for it. -/
  | variantContent (complaint : String)
  deriving DecidableEq, Repr

/-- The names of variants as alternatives. -/
def alternatives : List String → String
  | [] => "there are no variants"
  | [a] => s!"expected `{a}`"
  | [a, b] => s!"expected `{a}` or `{b}`"
  | variants => "expected one of " ++ ", ".intercalate (variants.map fun v => s!"`{v}`")

def ShapeFault.message : ShapeFault → String
  | .missingField name => s!"missing field `{name}`"
  | .unexpectedType found expected => s!"invalid type: {found}, expected {expected}"
  | .tooShort length record fields =>
    s!"invalid length {length}, expected struct {record} with {fields} elements"
  | .unknownVariant found variants => s!"unknown variant `{found}`, {alternatives variants}"
  | .noVariant => "wanted string or table"
  | .emptyVariant => "wanted exactly 1 element, found 0 elements"
  | .manyVariants => "wanted exactly 1 element, more than 1 element"
  | .variantContent complaint => complaint

/-- Why a text cannot be read as a document of a given shape. -/
inductive Fault where
  | malformed
  | shape (fault : ShapeFault)
  deriving DecidableEq, Repr

def Fault.message : Fault → String
  | .malformed => "TOML parse error"
  | .shape fault => s!"TOML parse error: {fault.message}"

namespace Value

/-- A value as a message about its type names it. -/
def description : Value → String
  | string text => s!"string {Text.literal text}"
  | integer n => s!"integer `{n}`"
  | float x => s!"floating point `{x.text}`"
  | boolean b => s!"boolean `{b}`"
  | array .. => "sequence"
  | datetime | table .. => "map"

/-- The name of the type of a value. -/
def typeName : Value → String
  | string _ => "string"
  | integer _ => "integer"
  | float _ => "float"
  | boolean _ => "boolean"
  | datetime => "datetime"
  | array .inline _ => "array"
  | array .headers _ => "array of tables"
  | table .inline _ => "inline table"
  | table .. => "table"

/-- The text of a string; `expected` is what a message calls it. -/
def readText (expected : String) : Value → Except ShapeFault String
  | string text => .ok text
  | v => .error (.unexpectedType v.description expected)

def readBoolean : Value → Except ShapeFault Bool
  | boolean b => .ok b
  | v => .error (.unexpectedType v.description "a boolean")

/-- The elements of an array, each of them read in turn. -/
def readArray {α : Type} (readElement : Value → Except ShapeFault α) :
    Value → Except ShapeFault (List α)
  | array _ elements => elements.mapM readElement
  | v => .error (.unexpectedType v.description "a sequence")

/-- Reads what a table holds for a variant, which has to be nothing. -/
def readContent : Value → Except ShapeFault Unit
  | table _ [] => .ok ()
  | array _ [] => .ok ()
  | array .headers _ => .error (.variantContent "expected empty array")
  | table .. | array .. => .error (.variantContent "expected empty table")
  | v => .error (.variantContent s!"expected table, found {v.typeName}")

/-- The name of a variant, as a string or as the only key of a table. -/
def readVariant (variants : List String) : Value → Except ShapeFault String
  | string name =>
    if variants.contains name then .ok name else .error (.unknownVariant name variants)
  | table _ [] => .error .emptyVariant
  | table _ [(name, content)] =>
    if variants.contains name then (content.readContent).map fun _ => name
    else .error (.unknownVariant name variants)
  | table .. => .error .manyVariants
  | _ => .error .noVariant

/-- The fields of a record with their names, in the order in which they are read. -/
def readFields (record : String) (names : List String) : Value → Except ShapeFault Entries
  | table _ entries => .ok entries
  | array _ elements => .ok (names.zip elements)
  | datetime => .ok []
  | v => .error (.unexpectedType v.description s!"struct {record}")

/-- The complaint about a field that a record lacks. -/
def missing (record : String) (names : List String) (name : String) : Value → ShapeFault
  | array _ elements => .tooShort elements.length record names.length
  | _ => .missingField name

end Value

/-- Reads a document into what `read` makes of its table. -/
def load {α : Type} (read : Value → Except ShapeFault α) (text : String) : Except Fault α :=
  match parse text with
  | none => .error .malformed
  | some entries =>
    match read (.table .header entries) with
    | .error fault => .error (.shape fault)
    | .ok result => .ok result

end Toml
end BindingGen
