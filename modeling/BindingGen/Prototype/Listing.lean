import BindingGen.Prototype.Parse

/-!
# Listings of prototypes

A listing holds one prototype a line.  Blank lines are skipped but counted, a byte order mark in
front of the text is ignored, and reading stops at the first line that is no prototype or, unless
repeated names are kept, at the first name that an earlier line has already declared.
-/

namespace BindingGen
namespace Prototype

/-- A prototype together with the number of its line, counted from one. -/
structure Entry where
  line : Nat
  prototype : Prototype
  deriving DecidableEq, Repr

/-- A name that was declared before. -/
structure Repetition where
  name : String
  firstLine : Nat
  line : Nat
  deriving DecidableEq, Repr

/-- Why a listing cannot be read. -/
inductive ListingFault where
  | malformed (line : Nat) (text : String) (cause : Fault)
  | repeated (repetition : Repetition)
  deriving DecidableEq, Repr

def ListingFault.message : ListingFault → String
  | .malformed line text cause => s!"line {line}: {cause.message}: `{text}`"
  | .repeated ⟨name, firstLine, line⟩ =>
    s!"line {line}: duplicate definition of '{name}' (first declared on line {firstLine})"

/-- What was read up to the end of a listing or up to its first fault. -/
structure Listing where
  entries : List Entry
  fault : Option ListingFault
  deriving DecidableEq, Repr

namespace Listing

/-- The line of the first of some entries that declares a name. -/
def firstLine? (entries : List Entry) (name : String) : Option Nat :=
  (entries.find? fun entry => entry.prototype.name == name).map Entry.line

/-- Reads lines, the first of them numbered `number`, after the entries `before`. -/
def readLines (keepRepeated : Bool) (before : List Entry) (number : Nat) :
    List (List Char) → Listing
  | [] => ⟨before, none⟩
  | line :: rest =>
    let text := Text.trim line
    if text.isEmpty then readLines keepRepeated before (number + 1) rest
    else
      match parseTrimmed text with
      | .error cause => ⟨before, some (.malformed number (String.ofList text) cause)⟩
      | .ok prototype =>
        let next := readLines keepRepeated (before ++ [⟨number, prototype⟩]) (number + 1) rest
        match firstLine? before prototype.name with
        | none => next
        | some firstLine =>
          if keepRepeated then next
          else ⟨before, some (.repeated ⟨prototype.name, firstLine, number⟩)⟩

/-- A text without the byte order mark in front of it. -/
def withoutMark : List Char → List Char
  | '\uFEFF' :: cs => cs
  | cs => cs

/-- Reads a listing as far as it goes. -/
def read (keepRepeated : Bool) (text : String) : Listing :=
  readLines keepRepeated [] 1 (Text.lines (withoutMark text.toList))

/-- The names among some entries that an earlier entry has declared. -/
def repetitions (entries : List Entry) : List Repetition :=
  entries.filterMap fun entry =>
    match firstLine? entries entry.prototype.name with
    | some firstLine =>
      if firstLine < entry.line then some ⟨entry.prototype.name, firstLine, entry.line⟩ else none
    | none => none

/-- The prototypes of a listing that was read to its end. -/
def prototypes (listing : Listing) : Except ListingFault (List Prototype) :=
  match listing.fault with
  | some fault => .error fault
  | none => .ok (listing.entries.map Entry.prototype)

end Listing

/-- The prototypes of a listing. -/
def parseListing (keepRepeated : Bool) (text : String) : Except ListingFault (List Prototype) :=
  (Listing.read keepRepeated text).prototypes

end Prototype
end BindingGen
