import BindingGen.Prototype.Basic
import BindingGen.Prototype.Token
import BindingGen.Text.Offset

/-!
# Reading a prototype

A prototype is cut at three byte offsets: before its only opening parenthesis, before its
closing parenthesis at the end, and after the last character before the parenthesis that cannot
belong to a word.  The pieces are the return type, the name and the parameter list.  Faults are
reported in a fixed order: characters, parentheses, what stands before them, then the
parameters from left to right.
-/

namespace BindingGen
namespace Prototype

/-- The characters that a prototype may hold. -/
def isAllowedChar (c : Char) : Bool :=
  Text.isWordChar c || Text.isAsciiBlank c || c == '*' || c == '(' || c == ')' || c == ','

/-- The offset at which the word at the end of a text begins. -/
def wordStart (cs : List Char) : Nat :=
  match Text.lastOffset? (fun c => !Text.isWordChar c) cs with
  | some offset => offset + 1
  | none => 0

/-- How the cuts of a text are taken and the tokens of a type are found. -/
structure Reader (m : Type → Type) where
  take : Text.Cut → m (List Char)
  tokens : List Char → m (List Token)

namespace Reader

variable {m : Type → Type} [Monad m] [MonadExceptOf Fault m] (reader : Reader m)

/-- Reads return type and name from the text before the parenthesis. -/
def splitHead (head : List Char) : m (String × String) := do
  let start := wordStart head
  let name ← reader.take ⟨head, start, Text.byteLength head⟩
  if name.isEmpty then throw .missingName
  else if !Text.isIdentifier name then throw (.invalidName (String.ofList name))
  else
    let returnType := Text.trim (← reader.take ⟨head, 0, start⟩)
    if returnType.isEmpty then throw .missingReturnType
    else if !Token.isType (← reader.tokens returnType) then
      throw (.invalidReturnType (String.ofList returnType))
    else return (String.ofList (Text.collapseBlanks returnType), String.ofList name)

/-- Reads one parameter, given its position and its text without blanks at the ends. -/
def parameter (position : Nat) (text : List Char) : m String := do
  if text.isEmpty then throw (.emptyParameter position)
  else
    let tokens ← reader.tokens text
    if text == ['v', 'o', 'i', 'd'] || !Token.endsInIdentifier tokens
        || !Token.isType tokens then
      throw (.invalidParameter (String.ofList text))
    else return String.ofList (Text.collapseBlanks text)

/-- Reads parameters from left to right, the first of them standing at `position`. -/
def parametersFrom (position : Nat) : List (List Char) → m (List String)
  | [] => return []
  | piece :: pieces => do
    let first ← reader.parameter position (Text.trim piece)
    let others ← parametersFrom (position + 1) pieces
    return first :: others

/-- Reads the text between the parentheses.  Nothing and the word `void` stand for no
parameters. -/
def parameters (list : List Char) : m (List String) :=
  let text := Text.trim list
  if text.isEmpty || text == ['v', 'o', 'i', 'd'] then return []
  else reader.parametersFrom 1 (Text.splitWhere (· == ',') text)

/-- Reads a prototype that has no blanks at its ends. -/
def trimmed (text : List Char) : m Prototype :=
  if text.isEmpty then throw .empty
  else
    match text.find? fun c => !isAllowedChar c with
    | some c => throw (.unsupportedCharacter c)
    | none =>
      match Text.firstOffset? (· == '(') text with
      | none => throw .missingOpenParenthesis
      | some opening =>
        if text.getLast? != some ')' then throw .missingCloseParenthesis
        else if text.count '(' != 1 || text.count ')' != 1 then throw .nestedParentheses
        else do
          let head ← reader.take ⟨text, 0, opening⟩
          let (returnType, name) ← reader.splitHead (Text.trimEnd head)
          let list ← reader.take ⟨text, opening + 1, Text.byteLength text - 1⟩
          let parameters ← reader.parameters list
          return ⟨name, parameters, returnType⟩

/-- Reads a prototype from a line. -/
def line (text : String) : m Prototype :=
  reader.trimmed (Text.trim text.toList)

/-- Takes every cut without looking at its offsets. -/
def direct : Reader (Except Fault) where
  take cut := .ok cut.piece
  tokens text := .ok (Token.ofText text)

@[simp]
theorem direct_take (cut : Text.Cut) : direct.take cut = .ok cut.piece :=
  rfl

@[simp]
theorem direct_tokens (text : List Char) : direct.tokens text = .ok (Token.ofText text) :=
  rfl

end Reader

def splitHead (head : List Char) : Except Fault (String × String) :=
  Reader.direct.splitHead head

def parseParameter (position : Nat) (text : List Char) : Except Fault String :=
  Reader.direct.parameter position text

def parseParametersFrom (position : Nat) (pieces : List (List Char)) :
    Except Fault (List String) :=
  Reader.direct.parametersFrom position pieces

@[simp]
theorem parseParametersFrom_nil (position : Nat) : parseParametersFrom position [] = .ok [] :=
  rfl

theorem parseParametersFrom_cons (position : Nat) (piece : List Char)
    (pieces : List (List Char)) :
    parseParametersFrom position (piece :: pieces) = do
      let first ← parseParameter position (Text.trim piece)
      let others ← parseParametersFrom (position + 1) pieces
      return first :: others :=
  rfl

def parseParameters (list : List Char) : Except Fault (List String) :=
  Reader.direct.parameters list

def parseTrimmed (text : List Char) : Except Fault Prototype :=
  Reader.direct.trimmed text

/-- Reads a prototype from a line. -/
def parse (line : String) : Except Fault Prototype :=
  Reader.direct.line line

end Prototype
end BindingGen
