import BindingGen.Text.CaseTable

/-!
# Lower case

The full lower-case mapping of Unicode.  Two characters do not follow the table: the capital I
with a dot becomes two characters, and the capital sigma has a second form at the end of a word.
-/

namespace BindingGen
namespace Text

def inRanges (ranges : Array (Nat × Nat)) (c : Char) : Bool :=
  ranges.any fun (first, last) => first ≤ c.toNat && c.toNat ≤ last

def isCased (c : Char) : Bool :=
  inRanges casedRanges c

def isCaseIgnorable (c : Char) : Bool :=
  inRanges caseIgnorableRanges c

/-- The lower-case form of a character by the table alone. -/
def lowercaseChar (c : Char) : Char :=
  let n := c.toNat
  match lowercaseRuns.find? fun run =>
      run.first ≤ n && n ≤ run.last && (n - run.first) % run.step == 0 with
  | some run => Char.ofNat (n + run.shift).toNat
  | none => c

/-- Whether the first character that is not ignorable is a cased letter. -/
def startsCased (cs : List Char) : Bool :=
  match cs.dropWhile isCaseIgnorable with
  | [] => false
  | c :: _ => isCased c

/-- The capital sigma ends a word when a cased letter comes before it and none follows. -/
def lowercaseAfter (before : List Char) : List Char → List Char
  | [] => []
  | c :: cs =>
    let lowered :=
      if c == 'Σ' then [if startsCased before && !startsCased cs then 'ς' else 'σ']
      else if c == 'İ' then ['i', '\u0307']
      else [lowercaseChar c]
    lowered ++ lowercaseAfter (c :: before) cs

/-- The lower-case form of a text. -/
def lowercase (cs : List Char) : List Char :=
  lowercaseAfter [] cs

end Text
end BindingGen
