import BindingGen.Text.GraphicTable

/-!
# Texts inside messages

A text that a message quotes is shown between double quotes on one line.  Characters that cannot
be shown as they are appear as escapes.
-/

namespace BindingGen
namespace Text

def isGraphic (c : Char) : Bool :=
  graphicRanges.any fun (first, last) => first ≤ c.toNat && c.toNat ≤ last

/-- The form of a character inside a quoted text. -/
def literalChar (c : Char) : List Char :=
  match c with
  | '\x00' => ['\\', '0']
  | '\t' => ['\\', 't']
  | '\r' => ['\\', 'r']
  | '\n' => ['\\', 'n']
  | '\\' => ['\\', '\\']
  | '"' => ['\\', '"']
  | c =>
    if isGraphic c then [c]
    else ['\\', 'u', '\x7b'] ++ Nat.toDigits 16 c.toNat ++ ['\x7d']

/-- A text between double quotes. -/
def literal (text : String) : String :=
  String.ofList (['"'] ++ text.toList.flatMap literalChar ++ ['"'])

end Text
end BindingGen
