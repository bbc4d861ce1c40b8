import BindingGen.Proofs.Text.Characters

/-!
# Conditions of compilation

The line that opens a conditional section states a condition on the symbols that are defined:
names that are joined by operators, negated, or put in parentheses.  A name holds when it is
defined, except the two names of the truth values, which cannot be defined.
-/

namespace BindingGen

/-- The operators between two conditions. -/
inductive Condition.Operator where
  | disjunction
  | conjunction
  | equality
  | inequality
  deriving DecidableEq, Repr

inductive Condition where
  | name (text : String)
  | negation (c : Condition)
  | joined (operator : Condition.Operator) (left right : Condition)
  deriving DecidableEq, Repr

namespace Condition

/-- An operator with a higher rank binds tighter. -/
def Operator.rank : Operator → Nat
  | disjunction => 0
  | conjunction => 1
  | equality | inequality => 2

def Operator.apply : Operator → Bool → Bool → Bool
  | disjunction, a, b => a || b
  | conjunction, a, b => a && b
  | equality, a, b => a == b
  | inequality, a, b => a != b

/-- Whether a name holds when some symbols are defined. -/
def nameHolds (defined : List String) (text : String) : Bool :=
  text == "true" || (text != "false" && defined.contains text)

def holds (defined : List String) : Condition → Bool
  | name text => nameHolds defined text
  | negation c => !c.holds defined
  | joined operator left right => operator.apply (left.holds defined) (right.holds defined)

/-! ## Reading -/

/-- The parts that the text of a condition is made of. -/
inductive Sign where
  | name (text : String)
  | operator (operator : Operator)
  | negation
  | opening
  | closing
  deriving DecidableEq, Repr

/-- Puts a word, if there is one, in front of the signs that follow it. -/
def endWord (word : List Char) (following : List Sign) : List Sign :=
  if word.isEmpty then following else .name (String.ofList word) :: following

/-- The signs of a text that goes on after a word. -/
def signsAfter (word : List Char) : List Char → Option (List Sign)
  | [] => some (endWord word [])
  | '|' :: '|' :: cs => (signsAfter [] cs).map fun signs =>
    endWord word (.operator .disjunction :: signs)
  | '&' :: '&' :: cs => (signsAfter [] cs).map fun signs =>
    endWord word (.operator .conjunction :: signs)
  | '=' :: '=' :: cs => (signsAfter [] cs).map fun signs =>
    endWord word (.operator .equality :: signs)
  | '!' :: '=' :: cs => (signsAfter [] cs).map fun signs =>
    endWord word (.operator .inequality :: signs)
  | '!' :: cs => (signsAfter [] cs).map fun signs => endWord word (.negation :: signs)
  | '(' :: cs => (signsAfter [] cs).map fun signs => endWord word (.opening :: signs)
  | ')' :: cs => (signsAfter [] cs).map fun signs => endWord word (.closing :: signs)
  | c :: cs =>
    if Text.isWordChar c then signsAfter (word ++ [c]) cs
    else if c == ' ' || c == '\t' then (signsAfter [] cs).map (endWord word)
    else none

mutual

/-- Reads a name, a negation or a condition in parentheses.  No part is nested deeper than
`fuel`. -/
def readOperand : (fuel : Nat) → List Sign → Option (Condition × List Sign)
  | _ + 1, .name text :: rest =>
    if Text.isIdentifier text.toList then some (.name text, rest) else none
  | fuel + 1, .negation :: rest => do
    let (c, rest) ← readOperand fuel rest
    return (.negation c, rest)
  | fuel + 1, .opening :: rest => do
    let (first, rest) ← readOperand fuel rest
    match ← extend fuel 0 first rest with
    | (c, .closing :: rest) => return (c, rest)
    | _ => none
  | _, _ => none

/-- Joins what follows to a condition as long as the operators have at least a rank. -/
def extend : (fuel rank : Nat) → Condition → List Sign → Option (Condition × List Sign)
  | fuel + 1, rank, left, .operator o :: rest =>
    if rank ≤ o.rank then do
      let (first, rest) ← readOperand fuel rest
      let (right, rest) ← extend fuel (o.rank + 1) first rest
      extend fuel rank (.joined o left right) rest
    else return (left, .operator o :: rest)
  | _, _, left, rest => some (left, rest)

end

/-- The condition that signs spell. -/
def ofSigns? (signs : List Sign) : Option Condition := do
  let fuel := signs.length + 1
  let (first, rest) ← readOperand fuel signs
  match ← extend fuel 0 first rest with
  | (c, []) => return c
  | _ => none

/-- The condition that a text spells. -/
def ofText? (cs : List Char) : Option Condition :=
  (signsAfter [] cs).bind ofSigns?

example : ofText? "A||!B && (C == false)".toList =
    some (.joined .disjunction (.name "A")
      (.joined .conjunction (.negation (.name "B"))
        (.joined .equality (.name "C") (.name "false")))) := by
  decide +kernel

/-! ## Names -/

theorem signsAfter_cons_of_isWordChar {c : Char} (isWord : Text.isWordChar c = true)
    (word cs : List Char) : signsAfter word (c :: cs) = signsAfter (word ++ [c]) cs := by
  -- A word character is none of the characters that other signs start with.
  rw [signsAfter]
  · rw [if_pos isWord]
  all_goals
    intros
    subst_vars
    simp [Text.isWordChar] at isWord

/-- Word characters belong to the word in front of them. -/
theorem signsAfter_append {text : List Char} (isWord : ∀ c ∈ text, Text.isWordChar c = true)
    (word cs : List Char) : signsAfter word (text ++ cs) = signsAfter (word ++ text) cs := by
  induction text generalizing word with
  | nil => rw [List.nil_append, List.append_nil]
  | cons c rest ih =>
      rw [List.cons_append, signsAfter_cons_of_isWordChar (isWord c List.mem_cons_self),
        ih fun d member => isWord d (List.mem_cons_of_mem c member), List.append_assoc]
      rfl

section Identifiers

variable {symbol : String} (identifier : Text.isIdentifier symbol.toList = true)
include identifier

theorem ne_nil_of_identifier : symbol.toList ≠ [] := by
  intro empty
  rw [empty] at identifier
  cases identifier

theorem signsAfter_identifier_append (cs : List Char) :
    signsAfter [] (symbol.toList ++ cs) = signsAfter symbol.toList cs :=
  signsAfter_append (fun _ member => Text.isWordChar_of_mem_identifier identifier member) [] cs

theorem endWord_identifier (following : List Sign) :
    endWord symbol.toList following = .name symbol :: following := by
  simp [endWord, List.isEmpty_iff, ne_nil_of_identifier identifier]

theorem signsAfter_identifier : signsAfter [] symbol.toList = some [.name symbol] := by
  have whole := signsAfter_identifier_append identifier []
  rw [List.append_nil] at whole
  rw [whole, signsAfter, endWord_identifier identifier]

theorem signsAfter_not_identifier :
    signsAfter [] ('!' :: symbol.toList) = some [.negation, .name symbol] := by
  have notEqual : ∀ cs, symbol.toList = '=' :: cs → False := by
    intro cs shape
    have isWord := Text.isWordChar_of_mem_identifier identifier (c := '=') (by simp [shape])
    cases isWord
  rw [signsAfter, signsAfter_identifier identifier]
  · rfl
  · exact notEqual

/-- The condition that a name is defined. -/
theorem ofText?_identifier : ofText? symbol.toList = some (.name symbol) := by
  rw [ofText?, signsAfter_identifier identifier]
  simp [ofSigns?, readOperand, extend, identifier]

/-- The condition that one name is defined and another is not. -/
theorem ofText?_and_not {other : String} (alsoIdentifier : Text.isIdentifier other.toList = true) :
    ofText? (symbol.toList ++ [' ', '&', '&', ' ', '!'] ++ other.toList) =
      some (.joined .conjunction (.name symbol) (.negation (.name other))) := by
  have signs : signsAfter [] (symbol.toList ++ [' ', '&', '&', ' ', '!'] ++ other.toList) =
      some [.name symbol, .operator .conjunction, .negation, .name other] := by
    have afterOperator : signsAfter [] (' ' :: '!' :: other.toList) =
        some [.negation, .name other] := by
      simp [signsAfter, signsAfter_not_identifier alsoIdentifier, Text.isWordChar, endWord]
    have afterWord : signsAfter symbol.toList
        (' ' :: '&' :: '&' :: ' ' :: '!' :: other.toList) =
          some [.name symbol, .operator .conjunction, .negation, .name other] := by
      have operator : signsAfter [] ('&' :: '&' :: ' ' :: '!' :: other.toList) =
          some [.operator .conjunction, .negation, .name other] := by
        simp [signsAfter, afterOperator, endWord]
      simp [signsAfter, operator, endWord_identifier identifier, Text.isWordChar]
    rw [List.append_assoc, signsAfter_identifier_append identifier]
    exact afterWord
  rw [ofText?, signs]
  simp [ofSigns?, readOperand, extend, identifier, alsoIdentifier, Operator.rank]

end Identifiers

end Condition
end BindingGen
