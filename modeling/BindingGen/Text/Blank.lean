/-!
# Blanks, words and identifiers

Texts are processed as lists of characters.  This module holds the character classes used by
every reader of the library and the operations that depend on them: trimming, cutting a text
into words, and collapsing runs of blanks.
-/

namespace BindingGen
namespace Text

/-- The characters with the Unicode property `White_Space`. -/
def isBlank (c : Char) : Bool :=
  let n := c.toNat
  (0x09 ≤ n && n ≤ 0x0D) || n == 0x20 || n == 0x85 || n == 0xA0 || n == 0x1680 ||
    (0x2000 ≤ n && n ≤ 0x200A) || n == 0x2028 || n == 0x2029 || n == 0x202F || n == 0x205F ||
    n == 0x3000

/-- The blanks that may separate the words of a prototype: space, tab, line feed, form feed and
carriage return. -/
def isAsciiBlank (c : Char) : Bool :=
  c == ' ' || c == '\t' || c == '\n' || c == '\x0c' || c == '\r'

/-- Letters, digits and the underscore, all of them ASCII. -/
def isWordChar (c : Char) : Bool :=
  c.isAlphanum || c == '_'

/-- A word that does not start with a digit. -/
def isIdentifier : List Char → Bool
  | [] => false
  | c :: cs => (c.isAlpha || c == '_') && cs.all isWordChar

def trimStart (cs : List Char) : List Char :=
  cs.dropWhile isBlank

def trimEnd (cs : List Char) : List Char :=
  (cs.reverse.dropWhile isBlank).reverse

def trim (cs : List Char) : List Char :=
  trimEnd (trimStart cs)

/-- The pieces between the characters that satisfy `p`; there is one more piece than there are
such characters. -/
def splitWhere (p : Char → Bool) : List Char → List (List Char)
  | [] => [[]]
  | c :: cs =>
    if p c then [] :: splitWhere p cs
    else
      match splitWhere p cs with
      | [] => [[c]]
      | piece :: pieces => (c :: piece) :: pieces

/-- The maximal runs without blanks. -/
def words (cs : List Char) : List (List Char) :=
  (splitWhere isBlank cs).filter (fun piece => !piece.isEmpty)

/-- The text with every run of blanks replaced by one space and none left at its ends. -/
def collapseBlanks (cs : List Char) : List Char :=
  [' '].intercalate (words cs)

/-- The lines of a text.  A line ends before a line feed, and one carriage return directly
before that line feed belongs to the ending.  Nothing after the last line feed is no line. -/
def lines (cs : List Char) : List (List Char) :=
  let pieces := splitWhere (· == '\n') cs
  let ended := pieces.dropLast.map fun piece =>
    if piece.getLast? == some '\r' then piece.dropLast else piece
  match pieces.getLast? with
  | none | some [] => ended
  | some rest => ended ++ [rest]

end Text
end BindingGen
