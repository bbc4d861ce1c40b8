/-!
# Byte offsets

Positions in a text count the bytes of its UTF-8 form.  An offset is usable when it falls
between two characters; `slice` cuts a text at two such offsets.  A cut that is still to be made
names its text with the offsets.
-/

namespace BindingGen
namespace Text

/-- The number of bytes of a text. -/
def byteLength : List Char → Nat
  | [] => 0
  | c :: cs => c.utf8Size + byteLength cs

/-- An offset that falls between two characters or at an end of the text. -/
def IsBoundary (cs : List Char) (offset : Nat) : Prop :=
  ∃ before after, cs = before ++ after ∧ byteLength before = offset

def dropBytes : Nat → List Char → List Char
  | _, [] => []
  | n, c :: cs => if n = 0 then c :: cs else dropBytes (n - c.utf8Size) cs

def takeBytes : Nat → List Char → List Char
  | _, [] => []
  | n, c :: cs => if n = 0 then [] else c :: takeBytes (n - c.utf8Size) cs

/-- The characters from byte `start` up to byte `stop`. -/
def slice (cs : List Char) (start stop : Nat) : List Char :=
  takeBytes (stop - start) (dropBytes start cs)

/-- What stands between two byte offsets of a text. -/
structure Cut where
  text : List Char
  start : Nat
  stop : Nat
  deriving DecidableEq, Repr

/-- The characters of a cut. -/
def Cut.piece (cut : Cut) : List Char :=
  slice cut.text cut.start cut.stop

/-- The offset of the first character that satisfies `p`. -/
def firstOffset? (p : Char → Bool) : List Char → Option Nat
  | [] => none
  | c :: cs => if p c then some 0 else (firstOffset? p cs).map (· + c.utf8Size)

/-- The offset of the last character that satisfies `p`. -/
def lastOffset? (p : Char → Bool) : List Char → Option Nat
  | [] => none
  | c :: cs =>
    match lastOffset? p cs with
    | some offset => some (offset + c.utf8Size)
    | none => if p c then some 0 else none

end Text
end BindingGen
