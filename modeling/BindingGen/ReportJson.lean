import BindingGen.Generation

/-!
# Reports as JSON

A report is printed as an indented JSON object.  In its strings the quote, the backslash and
control characters are escaped and all other characters stand for themselves.
-/

namespace BindingGen
namespace ReportJson

def hexDigit (n : Nat) : Char :=
  if n < 10 then Char.ofNat (48 + n) else Char.ofNat (87 + n)

/-- The form of a character inside a string. -/
def stringChar (c : Char) : List Char :=
  match c with
  | '"' => ['\\', '"']
  | '\\' => ['\\', '\\']
  | '\x08' => ['\\', 'b']
  | '\x0c' => ['\\', 'f']
  | '\n' => ['\\', 'n']
  | '\r' => ['\\', 'r']
  | '\t' => ['\\', 't']
  | c =>
    if c.toNat < 0x20 then ['\\', 'u', '0', '0', hexDigit (c.toNat / 16), hexDigit (c.toNat % 16)]
    else [c]

def string (text : String) : String :=
  String.ofList (['"'] ++ text.toList.flatMap stringChar ++ ['"'])

/-- The members of an object, one a line. -/
def members (indent : String) (fields : List (String × String)) : String :=
  ",\n".intercalate (fields.map fun (name, value) => indent ++ string name ++ ": " ++ value)

/-- An object over several lines, its closing brace indented by `indent`. -/
def object (indent : String) (fields : List (String × String)) : String :=
  "\x7b\n" ++ members (indent ++ "  ") fields ++ "\n" ++ indent ++ "\x7d"

def file (indent : String) (f : WrittenFile) : String :=
  let platform :=
    match f.role with
    | .binding id => [("platform", string id)]
    | _ => []
  indent ++ object indent ([("path", string f.path), ("kind", string f.role.text)] ++ platform ++
    [("sha256", string f.sha256)])

def files : List WrittenFile → String
  | [] => "[]"
  | fs => "[\n" ++ ",\n".intercalate (fs.map (file "    ")) ++ "\n  ]"

/-- The text of a report. -/
def text (report : Report) : String :=
  object "" [("definitions", toString report.definitions), ("files", files report.files)]

end ReportJson
end BindingGen
