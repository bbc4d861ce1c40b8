import BindingGen.Text.Blank

/-!
# Tokens of a type text

A type text is a run of words and stars.  Blanks separate words and are dropped; a star is a
token of its own wherever it stands.
-/

namespace BindingGen
namespace Prototype

inductive Token where
  | star
  | word (text : List Char)
  deriving DecidableEq, Repr

namespace Token

/-- The characters of a token. -/
def text : Token → List Char
  | star => ['*']
  | word w => w

/-- Puts a character in front of the tokens of the text that directly follows it. -/
def prepend (c : Char) (following : List Token) : List Token :=
  if c = '*' then star :: following
  else
    match following with
    | word w :: rest => word (c :: w) :: rest
    | _ => word [c] :: following

/-- The tokens of a text without blanks. -/
def ofWord : List Char → List Token
  | [] => []
  | c :: cs => prepend c (ofWord cs)

/-- The tokens of a text. -/
def ofText (cs : List Char) : List Token :=
  (Text.words cs).flatMap ofWord

def isIdentifier : Token → Bool
  | star => false
  | word w => Text.isIdentifier w

/-- Whether the tokens form a type: identifiers and stars, the first an identifier. -/
def isType : List Token → Bool
  | [] => false
  | first :: rest => first.isIdentifier && rest.all fun t => t == star || t.isIdentifier

/-- Whether the last token is an identifier. -/
def endsInIdentifier (tokens : List Token) : Bool :=
  match tokens.getLast? with
  | none => false
  | some last => last.isIdentifier

end Token
end Prototype
end BindingGen
