import BindingGen.Text.Blank

/-!
# Prototypes of native functions

A prototype names a native function, the texts of its parameters and the text of its return
type.  Type texts are kept as they were written, with runs of blanks collapsed to one space.
-/

namespace BindingGen

structure Prototype where
  name : String
  /-- Each parameter is a type followed by an identifier, or an identifier alone. -/
  parameters : List String
  returnType : String
  deriving DecidableEq, Repr, Inhabited

namespace Prototype

/-- Whether the function returns nothing. -/
def isVoid (p : Prototype) : Bool :=
  p.returnType == "void"

/-- The declaration in its normal form: return type, name, and the parameters in parentheses. -/
def signature (p : Prototype) : String :=
  p.returnType ++ " " ++ p.name ++ "(" ++ ", ".intercalate p.parameters ++ ")"

/-- Why a line is no prototype. -/
inductive Fault where
  | empty
  | unsupportedCharacter (c : Char)
  | missingOpenParenthesis
  | missingCloseParenthesis
  | nestedParentheses
  | missingName
  | invalidName (name : String)
  | missingReturnType
  | invalidReturnType (text : String)
  /-- Parameters are counted from one. -/
  | emptyParameter (position : Nat)
  | invalidParameter (text : String)
  deriving DecidableEq, Repr

def Fault.message : Fault → String
  | .empty => "empty definition"
  | .unsupportedCharacter c => s!"unsupported character '{c}'"
  | .missingOpenParenthesis => "missing '('"
  | .missingCloseParenthesis => "definition must end with ')'"
  | .nestedParentheses => "nested or unbalanced parentheses are not supported"
  | .missingName => "missing function name before '('"
  | .invalidName name => s!"invalid function name '{name}'"
  | .missingReturnType => "missing return type"
  | .invalidReturnType text => s!"invalid return type '{text}'"
  | .emptyParameter position => s!"parameter {position} is empty"
  | .invalidParameter text => s!"invalid parameter '{text}'"

end Prototype
end BindingGen
