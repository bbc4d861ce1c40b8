import BindingGen.Proofs.Steps
import BindingGen.Proofs.Text.Cuts
import BindingGen.Prototype.Token

/-!
# Scanning words in rounds

The tokens of a word can be read in rounds, each of which looks for the first star of what remains
and cuts there by byte offsets.  A round leaves less than it finds, so there are at most as many
rounds as characters, and every cut is in bounds.
-/

namespace BindingGen
namespace Prototype
namespace Token

open Text

/-- The token of a text without stars. -/
def ofStarless (front : List Char) : List Token :=
  if front.isEmpty then [] else [.word front]

theorem ofWord_append {front rest : List Char} (starless : '*' ∉ front)
    (apart : ∀ text following, ofWord rest ≠ .word text :: following) :
    ofWord (front ++ rest) = ofStarless front ++ ofWord rest := by
  induction front with
  | nil => rfl
  | cons c front ih =>
      have notStar : c ≠ '*' := fun isStar => starless (by simp [isStar])
      have further := ih fun later => starless (List.mem_cons_of_mem c later)
      rw [List.cons_append, ofWord, further]
      unfold prepend
      rw [if_neg notStar]
      cases front with
      | cons d front => rfl
      | nil =>
          cases tokens : ofWord rest with
          | nil => rfl
          | cons token following =>
              cases token with
              | star => rfl
              | word text => exact absurd tokens (apart text following)

theorem ofWord_append_star {front : List Char} (starless : '*' ∉ front) (rest : List Char) :
    ofWord (front ++ '*' :: rest) = ofStarless front ++ .star :: ofWord rest :=
  ofWord_append starless (by simp [ofWord, prepend])

theorem ofWord_of_starless {word : List Char} (starless : '*' ∉ word) :
    ofWord word = ofStarless word := by
  have whole : ofWord (word ++ []) = ofStarless word ++ [] :=
    ofWord_append starless (by simp [ofWord])
  rwa [List.append_nil, List.append_nil] at whole

/-! ## Rounds -/

/-- The tokens that were read so far, and what remains of the word. -/
structure Scan where
  tokens : List Token
  remaining : List Char
  deriving DecidableEq, Repr

namespace Scan

/-- Reads what stands in front of the first star, if anything does, and the star; without a star
it reads all that remains. -/
def round (scan : Scan) : Except Cut Scan :=
  match firstOffset? (· == '*') scan.remaining with
  | none => .ok ⟨scan.tokens ++ [.word scan.remaining], []⟩
  | some offset => do
    let front ← if offset = 0 then pure [] else
      (Cut.take ⟨scan.remaining, 0, offset⟩).map fun text => [.word text]
    let rest ← Cut.take ⟨scan.remaining, offset + 1, byteLength scan.remaining⟩
    return ⟨scan.tokens ++ front ++ [.star], rest⟩

/-- Rounds until nothing remains, but not more than a given number of them. -/
def rounds : Nat → Scan → Except Cut Scan
  | 0, scan => .ok scan
  | n + 1, scan => if scan.remaining.isEmpty then .ok scan else scan.round >>= rounds n

theorem round_starless (tokens : List Token) {remaining : List Char} (starless : '*' ∉ remaining) :
    round ⟨tokens, remaining⟩ = .ok ⟨tokens ++ [.word remaining], []⟩ := by
  have nowhere : firstOffset? (· == '*') remaining = none := by
    rw [firstOffset?_eq_none_iff]
    intro c member
    exact beq_eq_false_iff_ne.mpr (ne_of_mem_of_not_mem member starless)
  simp only [round, nowhere]

theorem round_append_star (tokens : List Token) {front : List Char} (starless : '*' ∉ front)
    (rest : List Char) :
    round ⟨tokens, front ++ '*' :: rest⟩ = .ok ⟨tokens ++ ofStarless front ++ [.star], rest⟩ := by
  have found : firstOffset? (· == '*') (front ++ '*' :: rest) = some (byteLength front) := by
    apply firstOffset?_append_cons
    · intro c member
      exact beq_eq_false_iff_ne.mpr (ne_of_mem_of_not_mem member starless)
    · rfl
  have behind : Cut.take ⟨front ++ '*' :: rest, byteLength front + 1,
      byteLength (front ++ '*' :: rest)⟩ = .ok rest := by
    have offset : byteLength (front ++ ['*']) = byteLength front + 1 :=
      byteLength_append front ['*']
    have whole : front ++ '*' :: rest = front ++ ['*'] ++ rest := by simp
    rw [whole, ← offset]
    exact Cut.take_back (front ++ ['*']) rest
  simp only [round, found, behind]
  cases front with
  | nil => rfl
  | cons c front =>
      have filled : byteLength (c :: front) ≠ 0 := by
        have positive := c.utf8Size_pos
        rw [byteLength]
        omega
      rw [if_neg filled, Cut.take_front]
      rfl

/-- A round on something stays in bounds, leaves less, and keeps what there is to be read. -/
theorem exists_round (tokens : List Token) {remaining : List Char} (filled : remaining ≠ []) :
    ∃ next, round ⟨tokens, remaining⟩ = .ok next ∧
      next.remaining.length < remaining.length ∧
        next.tokens ++ ofWord next.remaining = tokens ++ ofWord remaining := by
  by_cases starred : '*' ∈ remaining
  · obtain ⟨front, rest, rfl, starless⟩ := List.eq_append_cons_of_mem starred
    refine ⟨_, round_append_star tokens starless rest, ?_, ?_⟩
    · simp only [List.length_append, List.length_cons]
      omega
    · simp [ofWord_append_star starless]
  · refine ⟨_, round_starless tokens starred, List.length_pos_iff.mpr filled, ?_⟩
    simp [ofWord_of_starless starred, ofStarless, filled, ofWord]

/-- As many rounds as characters read the whole word. -/
theorem rounds_eq {n : Nat} {remaining : List Char} (enough : remaining.length ≤ n)
    (tokens : List Token) :
    rounds n ⟨tokens, remaining⟩ = .ok ⟨tokens ++ ofWord remaining, []⟩ := by
  induction n generalizing tokens remaining with
  | zero =>
      obtain rfl := List.eq_nil_of_length_eq_zero (Nat.le_zero.mp enough)
      rw [rounds, ofWord, List.append_nil]
  | succ n ih =>
      cases remaining with
      | nil => simp [rounds, ofWord]
      | cons c cs =>
          obtain ⟨⟨others, rest⟩, isRound, shorter, kept⟩ :=
            exists_round tokens (List.cons_ne_nil c cs)
          have further : rounds n ⟨others, rest⟩ = .ok ⟨others ++ ofWord rest, []⟩ := by
            apply ih
            simp only at shorter
            omega
          rw [rounds, isRound, ← kept]
          exact further

end Scan

/-- The tokens of a text, with its words scanned one after another. -/
def scanText (cs : List Char) : Except Cut (List Token) :=
  (words cs).foldlM (fun tokens word =>
    (Scan.rounds word.length ⟨tokens, word⟩).map Scan.tokens) []

@[simp]
theorem scanText_eq (cs : List Char) : scanText cs = .ok (ofText cs) := by
  have scanned (pieces : List (List Char)) (tokens : List Token) :
      pieces.foldlM (fun tokens word =>
        (Scan.rounds word.length ⟨tokens, word⟩).map Scan.tokens) tokens =
          .ok (tokens ++ pieces.flatMap ofWord) := by
    induction pieces generalizing tokens with
    | nil => simp
    | cons word pieces ih =>
        rw [List.foldlM_cons, Scan.rounds_eq (Nat.le_refl _)]
        have further := ih (tokens ++ ofWord word)
        rw [List.append_assoc, ← List.flatMap_cons] at further
        exact further
  exact scanned (words cs) []

end Token
end Prototype
end BindingGen
