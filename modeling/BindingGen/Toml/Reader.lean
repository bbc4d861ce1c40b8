import BindingGen.Toml.Extend
import BindingGen.Toml.Quoted
import BindingGen.Toml.Scalar

/-!
# Reading TOML

Readers take a text and give what they read together with the rest of the text.  A document is
read line by line into statements, from which its tables are built.  Values nest at most
`nestingLimit` deep, and keys have at most `keyLimit` parts.
-/

namespace BindingGen
namespace Toml

abbrev Reader (α : Type) := List Char → Option (α × List Char)

def nestingLimit : Nat := 79

def keyLimit : Nat := 79

def isSpace (c : Char) : Bool :=
  c == ' ' || c == '\t'

def skipSpaces (cs : List Char) : List Char :=
  cs.dropWhile isSpace

def isBareChar (c : Char) : Bool :=
  c.isAlphanum || c == '_' || c == '-'

/-! ## Keys -/

/-- Reads one part of a key. -/
def readPart (cs : List Char) : Option (String × List Char) :=
  match cs with
  | '"' :: _ | '\'' :: _ => (Quoted.readLine? cs).map fun (part, rest) => (String.ofList part, rest)
  | _ =>
    let part := cs.takeWhile isBareChar
    if part.isEmpty then none else some (String.ofList part, cs.dropWhile isBareChar)

/-- Reads a key of at most `limit` parts, with dots between them and spaces around them. -/
def readKey : Nat → Reader (List String)
  | 0, _ => none
  | limit + 1, cs =>
    match readPart (skipSpaces cs) with
    | none => none
    | some (part, rest) =>
      match skipSpaces rest with
      | '.' :: more => (readKey limit more).map fun (parts, rest) => (part :: parts, rest)
      | rest => some ([part], rest)

/-- Reads a key, an equals sign and a value. -/
def readPair (readValue : Reader Value) (cs : List Char) :
    Option ((List String × Value) × List Char) :=
  match readKey keyLimit cs with
  | some (key, '=' :: rest) =>
    (readValue (skipSpaces rest)).map fun (value, rest) => ((key, value), rest)
  | _ => none

/-! ## Values -/

/-- Drops spaces, line breaks and comments; each comment has to end with its line. -/
def skipFill : (comment : Bool) → List Char → Option (List Char)
  | comment, [] => if comment then none else some []
  | false, c :: cs =>
    if isSpace c || c = '\n' then skipFill false cs
    else if c = '\r' && Quoted.beginsBreak cs then skipFill false cs
    else if c = '#' then skipFill true cs
    else some (c :: cs)
  | true, c :: cs =>
    if c = '\n' then skipFill false cs
    else if Quoted.isTextChar c || (c = '\r' && Quoted.beginsBreak cs) then skipFill true cs
    else none

/-- Reads the elements of an array up to its closing bracket. -/
def readElements (readValue : Reader Value) : (fuel : Nat) → Reader (List Value)
  | 0, _ => none
  | fuel + 1, cs =>
    match skipFill false cs with
    | none => none
    | some (']' :: rest) => some ([], rest)
    | some cs =>
      match readValue cs with
      | none => none
      | some (value, rest) =>
        match skipFill false rest with
        | some (']' :: rest) => some ([value], rest)
        | some (',' :: rest) =>
          (readElements readValue fuel rest).map fun (values, rest) => (value :: values, rest)
        | _ => none

/-- Reads the entries of a table between braces up to its closing brace. -/
def readPairs (readValue : Reader Value) : (fuel : Nat) → Reader (List (List String × Value))
  | 0, _ => none
  | fuel + 1, cs =>
    match readPair readValue cs with
    | none => none
    | some (pair, rest) =>
      match skipSpaces rest with
      | '\x7d' :: rest => some ([pair], rest)
      | ',' :: rest =>
        (readPairs readValue fuel rest).map fun (pairs, rest) => (pair :: pairs, rest)
      | _ => none

/-- Reads a table after its opening brace. -/
def readInlineTable (readValue : Reader Value) (cs : List Char) : Option (Value × List Char) :=
  match skipSpaces cs with
  | '\x7d' :: rest => some (.table .inline [], rest)
  | _ =>
    match readPairs readValue cs.length cs with
    | none => none
    | some (pairs, rest) =>
      (inlineEntries pairs).map fun entries => (.table .inline entries, rest)

/-- Reads a value in which arrays and tables nest at most `depth` deep. -/
def readValue : (depth : Nat) → Reader Value
  | _, '"' :: cs =>
    (Quoted.read? ('"' :: cs)).map fun (text, rest) => (.string (String.ofList text), rest)
  | _, '\'' :: cs =>
    (Quoted.read? ('\'' :: cs)).map fun (text, rest) => (.string (String.ofList text), rest)
  | 0, '[' :: _ => none
  | depth + 1, '[' :: cs =>
    (readElements (readValue depth) cs.length cs).map fun (values, rest) =>
      (.array .inline values, rest)
  | 0, '\x7b' :: _ => none
  | depth + 1, '\x7b' :: cs => readInlineTable (readValue depth) cs
  | _, cs => Scalar.read? cs

/-! ## Documents -/

/-- The rest of a text after the end of a line, or after the end of the text. -/
def lineBreak? : List Char → Option (List Char)
  | [] => some []
  | '\n' :: cs => some cs
  | '\r' :: '\n' :: cs => some cs
  | _ => none

/-- The rest of a text after spaces, a comment and the end of a line. -/
def lineEnd? (cs : List Char) : Option (List Char) :=
  match skipSpaces cs with
  | '#' :: comment => lineBreak? (comment.dropWhile Quoted.isTextChar)
  | cs => lineBreak? cs

/-- Reads a statement up to the end of its line. -/
def readStatement (cs : List Char) : Option (Statement × List Char) :=
  match cs with
  | '[' :: '[' :: cs =>
    match readKey keyLimit cs with
    | some (path, ']' :: ']' :: rest) => (lineEnd? rest).map fun rest => (.openElement path, rest)
    | _ => none
  | '[' :: cs =>
    match readKey keyLimit cs with
    | some (path, ']' :: rest) => (lineEnd? rest).map fun rest => (.openTable path, rest)
    | _ => none
  | cs =>
    match readPair (readValue nestingLimit) cs with
    | some ((path, value), rest) => (lineEnd? rest).map fun rest => (.assign path value, rest)
    | none => none

/-- Reads the lines of a document; `fuel` bounds their number. -/
def readStatements : (fuel : Nat) → List Char → Option (List Statement)
  | 0, cs => if cs.isEmpty then some [] else none
  | fuel + 1, cs =>
    match skipSpaces cs with
    | [] => some []
    | '#' :: rest =>
      match lineEnd? ('#' :: rest) with
      | some rest => readStatements fuel rest
      | none => none
    | '\n' :: rest => readStatements fuel rest
    | '\r' :: '\n' :: rest => readStatements fuel rest
    | cs =>
      match readStatement cs with
      | some (statement, rest) => (readStatements fuel rest).map (statement :: ·)
      | none => none

/-- The entries of a document.  A byte order mark in front of it is ignored. -/
def parse (text : String) : Option Entries :=
  let cs :=
    match text.toList with
    | '\uFEFF' :: cs => cs
    | cs => cs
  (readStatements cs.length cs).bind entriesOf

end Toml
end BindingGen
