/-!
# Quoted text in TOML

Text stands between quotes of four kinds: double or single, one or three on each side.  Between
double quotes a backslash begins an escape; between single quotes every character stands for
itself.  Only between three quotes may a text hold line breaks, and a break directly after the
opening quotes is dropped.

A text is written between the first kind of quotes that needs no escapes for it, in the order
`"`, `'`, `"""`, `'''`; where all need them, double quotes are used.
-/

namespace BindingGen
namespace Toml
namespace Quoted

/-- The characters that may stand in a text or a comment: all but control characters, of which
only the tab is allowed. -/
def isTextChar (c : Char) : Bool :=
  c == '\t' || (0x20 ≤ c.toNat && c.toNat != 0x7F)

/-! ## Reading -/

/-- The character that a letter after a backslash stands for. -/
def escapedChar? (c : Char) : Option Char :=
  match c with
  | 'b' => some '\x08'
  | 't' => some '\t'
  | 'n' => some '\n'
  | 'f' => some '\x0c'
  | 'r' => some '\r'
  | '"' => some '"'
  | '\\' => some '\\'
  | _ => none

/-- The number of hexadecimal digits after a letter that begins a code point. -/
def codeLength? (c : Char) : Option Nat :=
  match c with
  | 'u' => some 4
  | 'U' => some 8
  | _ => none

def hexValue? (c : Char) : Option Nat :=
  if c.isDigit then some (c.toNat - 48)
  else if 'a' ≤ c && c ≤ 'f' then some (c.toNat - 87)
  else if 'A' ≤ c && c ≤ 'F' then some (c.toNat - 55)
  else none

/-- The character with a code point. -/
def charOfCode? (n : Nat) : Option Char :=
  if n.isValidChar then some (Char.ofNat n) else none

/-- Where a reader stands between double quotes. -/
inductive Place where
  /-- Before a character of the text. -/
  | text
  /-- After a backslash. -/
  | escape
  /-- Before the given number of digits of a code point. -/
  | code (digits value : Nat)
  /-- After a backslash and blanks, before the end of the line. -/
  | beforeBreak
  /-- After a backslash and the end of a line, where blanks and line breaks are dropped. -/
  | afterBreak
  deriving DecidableEq, Repr

/-- Puts a character in front of a text that was read. -/
def cons (c : Char) (read : Option (List Char × List Char)) : Option (List Char × List Char) :=
  read.map fun (cs, rest) => (c :: cs, rest)

/-- Whether the next character is a line feed, which makes a carriage return before it a part of
a line break. -/
def beginsBreak (cs : List Char) : Bool :=
  cs.head? == some '\n'

/-- Reads up to the double quotes that end a text; the opening quotes have been read.  `lines`
says whether they were three. -/
def readDouble (lines : Bool) : Place → List Char → Option (List Char × List Char)
  | _, [] => none
  | .escape, c :: cs =>
    match escapedChar? c, codeLength? c with
    | some d, _ => cons d (readDouble lines .text cs)
    | none, some digits => readDouble lines (.code digits 0) cs
    | none, none =>
      if !lines then none
      else if c = '\n' then readDouble lines .afterBreak cs
      else if c = ' ' || c = '\t' || (c = '\r' && beginsBreak cs) then
        readDouble lines .beforeBreak cs
      else none
  | .code digits value, c :: cs =>
    match hexValue? c with
    | none => none
    | some d =>
      if 1 < digits then readDouble lines (.code (digits - 1) (16 * value + d)) cs
      else
        match charOfCode? (16 * value + d) with
        | some e => cons e (readDouble lines .text cs)
        | none => none
  | .beforeBreak, c :: cs =>
    if c = '\n' then readDouble lines .afterBreak cs
    else if c = ' ' || c = '\t' || (c = '\r' && beginsBreak cs) then
      readDouble lines .beforeBreak cs
    else none
  | place, c :: cs =>
    if place = .afterBreak && (c = ' ' || c = '\t' || c = '\n' || (c = '\r' && beginsBreak cs)) then
      readDouble lines .afterBreak cs
    else if c = '"' then
      if !lines then some ([], cs)
      else
        match cs with
        | '"' :: '"' :: '"' :: '"' :: rest => some (['"', '"'], rest)
        | '"' :: '"' :: '"' :: rest => some (['"'], rest)
        | '"' :: '"' :: rest => some ([], rest)
        | _ => cons '"' (readDouble lines .text cs)
    else if c = '\\' then readDouble lines .escape cs
    else if isTextChar c || (lines && c = '\n') then cons c (readDouble lines .text cs)
    else if lines && c = '\r' && beginsBreak cs then readDouble lines .text cs
    else none

/-- Reads up to the single quotes that end a text; the opening quotes have been read.  `lines`
says whether they were three. -/
def readSingle (lines : Bool) : List Char → Option (List Char × List Char)
  | [] => none
  | c :: cs =>
    if c = '\'' then
      if !lines then some ([], cs)
      else
        match cs with
        | '\'' :: '\'' :: '\'' :: '\'' :: rest => some (['\'', '\''], rest)
        | '\'' :: '\'' :: '\'' :: rest => some (['\''], rest)
        | '\'' :: '\'' :: rest => some ([], rest)
        | _ => cons '\'' (readSingle lines cs)
    else if isTextChar c || (lines && c = '\n') then cons c (readSingle lines cs)
    else if lines && c = '\r' && beginsBreak cs then readSingle lines cs
    else none

/-- A text without a line break at its start. -/
def dropBreak : List Char → List Char
  | '\n' :: cs => cs
  | '\r' :: '\n' :: cs => cs
  | cs => cs

/-- Reads a text between one quote on each side, as keys have them. -/
def readLine? : List Char → Option (List Char × List Char)
  | '"' :: cs => readDouble false .text cs
  | '\'' :: cs => readSingle false cs
  | _ => none

/-- Reads a text between quotes of any kind. -/
def read? : List Char → Option (List Char × List Char)
  | '"' :: '"' :: '"' :: cs => readDouble true .text (dropBreak cs)
  | '\'' :: '\'' :: '\'' :: cs => readSingle true (dropBreak cs)
  | cs => readLine? cs

/-! ## Writing -/

/-- The control characters that cannot stand unescaped between quotes of any kind. -/
def isControl (c : Char) : Bool :=
  (c.toNat ≤ 0x1F && c != '\t' && c != '\n') || c.toNat == 0x7F

/-- Whether a character occurs three times in a row, given how often it occurred just before. -/
def hasRun (quote : Char) : Nat → List Char → Bool
  | _, [] => false
  | before, c :: cs =>
    if c = quote then before == 2 || hasRun quote (before + 1) cs else hasRun quote 0 cs

def hexDigit (n : Nat) : Char :=
  if n < 10 then Char.ofNat (48 + n) else Char.ofNat (55 + n)

/-- The escape of a character, if it needs one wherever it stands. -/
def escape? (lines : Bool) (c : Char) : Option (List Char) :=
  if c = '\x08' then some ['\\', 'b']
  else if c = '\t' then some ['\\', 't']
  else if c = '\x0c' then some ['\\', 'f']
  else if c = '\r' then some ['\\', 'r']
  else if c = '\\' then some ['\\', '\\']
  else if c = '\n' then if lines then none else some ['\\', 'n']
  else if isControl c then
    some ['\\', 'u', '0', '0', hexDigit (c.toNat / 16), hexDigit (c.toNat % 16)]
  else none

/-- Writes a text between double quotes.  Between three of them a quote is escaped only when two
unescaped ones stand before it; `run` counts these. -/
def writeDouble (lines : Bool) : Nat → List Char → List Char
  | _, [] => []
  | run, c :: cs =>
    match escape? lines c with
    | some escape => escape ++ writeDouble lines 0 cs
    | none =>
      if c = '"' then
        if lines && run < 2 then '"' :: writeDouble lines (run + 1) cs
        else '\\' :: '"' :: writeDouble lines 0 cs
      else c :: writeDouble lines 0 cs

/-- The line break after opening quotes, where a text has line breaks. -/
def openingBreak (cs : List Char) : List Char :=
  if cs.contains '\n' then ['\n'] else []

/-- Writes a text with its quotes. -/
def write (cs : List Char) : List Char :=
  let control := cs.any isControl
  let broken := cs.contains '\n'
  let backslash := cs.contains '\\'
  if !control && !backslash && !cs.contains '"' && !broken then
    ['"'] ++ writeDouble false 0 cs ++ ['"']
  else if !control && !cs.contains '\'' && !broken then ['\''] ++ cs ++ ['\'']
  else if !control && !backslash && !hasRun '"' 0 cs then
    ['"', '"', '"'] ++ openingBreak cs ++ writeDouble true 0 cs ++ ['"', '"', '"']
  else if !control && !hasRun '\'' 0 cs then
    ['\'', '\'', '\''] ++ openingBreak cs ++ cs ++ ['\'', '\'', '\'']
  else if broken then
    ['"', '"', '"'] ++ openingBreak cs ++ writeDouble true 0 cs ++ ['"', '"', '"']
  else ['"'] ++ writeDouble false 0 cs ++ ['"']

end Quoted
end Toml
end BindingGen
