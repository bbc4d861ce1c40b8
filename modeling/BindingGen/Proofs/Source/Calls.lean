import BindingGen.Proofs.Source.Rendering

/-!
# Calls of a writer

A client calls a writer again and again and goes on after a call that has failed.  What the writer
holds is decided by the calls that succeeded: each of them adds one line, and the line is indented
by the number of blocks that the calls before it have opened and not closed.
-/

namespace BindingGen
namespace Writer

inductive Call where
  | openBlock
  | closeBlock
  | line (content : String)
  deriving DecidableEq, Repr

/-- The outcome of a call and the writer after it. -/
def call (w : Writer) : Call → Except Fault Unit × Writer
  | .openBlock => (.ok (), w.openBlock)
  | .closeBlock => w.tryClose
  | .line content => (.ok (), w.line content)

/-- The writer after some calls. -/
def after (w : Writer) (calls : List Call) : Writer :=
  calls.foldl (fun w c => (w.call c).2) w

def outcomes (w : Writer) : List Call → List (Except Fault Unit)
  | [] => []
  | c :: rest => (w.call c).1 :: (w.call c).2.outcomes rest

/-- The calls that succeed. -/
def effective (w : Writer) (calls : List Call) : List Call :=
  ((calls.zip (w.outcomes calls)).filter fun entry => entry.2.isOk).map Prod.fst

/-! ## What calls should write -/

/-- The number of blocks that calls leave open. -/
def blocksOf (calls : List Call) : Nat :=
  calls.count .openBlock - calls.count .closeBlock

/-- The line of a call that follows others. -/
def lineOf (before : List Call) : Call → String
  | .openBlock => indentation (blocksOf before) ++ "\x7b"
  | .closeBlock => indentation (blocksOf (before ++ [.closeBlock])) ++ "\x7d"
  | .line content => if content = "" then "" else indentation (blocksOf before) ++ content

/-- The lines of calls that follow others. -/
def linesOf (before : List Call) : List Call → List String
  | [] => []
  | c :: rest => lineOf before c :: linesOf (before ++ [c]) rest

/-- The text of calls that all succeed. -/
def rendering (ending : LineEnding) (calls : List Call) : String :=
  ending.terminate (linesOf [] calls)

@[simp]
theorem linesOf_append_singleton (before calls : List Call) (c : Call) :
    linesOf before (calls ++ [c]) = linesOf before calls ++ [lineOf (before ++ calls) c] := by
  induction calls generalizing before with
  | nil => simp [linesOf]
  | cons first rest ih => simp [linesOf, ih]

/-! ## Single calls -/

theorem call_closeBlock_of_depth_eq_zero {w : Writer} (outermost : w.depth = 0) :
    w.call .closeBlock = (.error .underflow, w) := by
  simp [call, tryClose, popIndent, outermost]

theorem call_closeBlock_of_depth_ne_zero {w : Writer} (inside : w.depth ≠ 0) :
    (w.call .closeBlock).1 = .ok () := by
  obtain ⟨depth, isDepth⟩ := Nat.exists_eq_succ_of_ne_zero inside
  simp [call, tryClose, popIndent, isDepth]

@[simp]
theorem call_closeBlock_fails_iff (w : Writer) :
    (w.call .closeBlock).1 = .error .underflow ↔ w.depth = 0 := by
  constructor
  · intro failed
    apply Decidable.byContradiction
    intro inside
    rw [call_closeBlock_of_depth_ne_zero inside] at failed
    cases failed
  · intro outermost
    rw [call_closeBlock_of_depth_eq_zero outermost]

/-- Only closing fails, and then the writer is the same. -/
theorem call_of_error {w : Writer} {c : Call} {fault : Fault}
    (failed : (w.call c).1 = .error fault) : (w.call c).2 = w := by
  cases c with
  | openBlock => cases failed
  | line content => cases failed
  | closeBlock =>
      by_cases outermost : w.depth = 0
      · rw [call_closeBlock_of_depth_eq_zero outermost]
      · rw [call_closeBlock_of_depth_ne_zero outermost] at failed
        cases failed

/-! ## Calls in a row -/

@[simp]
theorem after_cons (w : Writer) (c : Call) (rest : List Call) :
    w.after (c :: rest) = (w.call c).2.after rest :=
  rfl

@[simp]
theorem after_append (w : Writer) (first second : List Call) :
    w.after (first ++ second) = (w.after first).after second :=
  List.foldl_append

@[simp]
theorem outcomes_append (w : Writer) (first second : List Call) :
    w.outcomes (first ++ second) = w.outcomes first ++ (w.after first).outcomes second := by
  induction first generalizing w with
  | nil => rfl
  | cons c rest ih =>
      rw [List.cons_append, outcomes, ih, after_cons]
      rfl

@[simp]
theorem length_outcomes (w : Writer) (calls : List Call) :
    (w.outcomes calls).length = calls.length := by
  induction calls generalizing w with
  | nil => rfl
  | cons c rest ih => rw [outcomes, List.length_cons, ih, List.length_cons]

theorem effective_cons_of_ok {w : Writer} {c : Call} (succeeds : (w.call c).1 = .ok ())
    (rest : List Call) : w.effective (c :: rest) = c :: (w.call c).2.effective rest := by
  simp [effective, outcomes, succeeds, Except.isOk, Except.toBool]

theorem effective_cons_of_error {w : Writer} {c : Call} {fault : Fault}
    (failed : (w.call c).1 = .error fault) (rest : List Call) :
    w.effective (c :: rest) = w.effective rest := by
  simp [effective, outcomes, failed, call_of_error failed, Except.isOk, Except.toBool]

/-- Every block that a client opens is open. -/
@[simp]
theorem count_openBlock_effective (w : Writer) (calls : List Call) :
    (w.effective calls).count .openBlock = calls.count .openBlock := by
  induction calls generalizing w with
  | nil => rfl
  | cons c rest ih =>
      cases outcome : (w.call c).1 with
      | ok value => rw [effective_cons_of_ok outcome, List.count_cons, List.count_cons, ih]
      | error fault =>
          have notOpening : c ≠ .openBlock := by
            rintro rfl
            cases outcome
          rw [effective_cons_of_error outcome, List.count_cons_of_ne notOpening, ih]

/-! ## What a writer holds -/

/-- A writer holds what some calls should write. -/
structure Holds (ending : LineEnding) (done : List Call) (w : Writer) : Prop where
  balanced : done.count .closeBlock ≤ done.count .openBlock
  written : w = ofLines ending (blocksOf done) (linesOf [] done)

theorem holds_empty (ending : LineEnding) : Holds ending [] (empty ending) :=
  ⟨Nat.le_refl 0, rfl⟩

namespace Holds

variable {ending : LineEnding} {done : List Call} {w : Writer}

theorem depth_eq (holds : Holds ending done w) : w.depth = blocksOf done := by
  rw [holds.written]
  rfl

theorem openBlock (holds : Holds ending done w) :
    Holds ending (done ++ [.openBlock]) w.openBlock := by
  have balanced := holds.balanced
  have deeper : blocksOf (done ++ [.openBlock]) = blocksOf done + 1 := by
    simp [blocksOf]
    omega
  refine ⟨by simp; omega, ?_⟩
  rw [holds.written, openBlock_ofLines, linesOf_append_singleton, deeper]
  simp [lineOf, indented]

theorem line (holds : Holds ending done w) (content : String) :
    Holds ending (done ++ [.line content]) (w.line content) := by
  have balanced := holds.balanced
  have asDeep : blocksOf (done ++ [.line content]) = blocksOf done := by simp [blocksOf]
  refine ⟨by simpa using balanced, ?_⟩
  rw [holds.written, line_ofLines, linesOf_append_singleton, asDeep]
  simp [lineOf, indented]

theorem closeBlock (holds : Holds ending done w) (inside : w.depth ≠ 0) :
    Holds ending (done ++ [.closeBlock]) (w.call .closeBlock).2 := by
  have opened : done.count .closeBlock < done.count .openBlock := by
    rw [holds.depth_eq, blocksOf] at inside
    omega
  have deeper : blocksOf done = blocksOf (done ++ [.closeBlock]) + 1 := by
    simp [blocksOf]
    omega
  refine ⟨by simp; omega, ?_⟩
  rw [holds.written, deeper, call, tryClose_ofLines, linesOf_append_singleton]
  simp [lineOf, indented]

/-- A call that succeeds writes what it should. -/
theorem of_call_ok (holds : Holds ending done w) {c : Call} (succeeds : (w.call c).1 = .ok ()) :
    Holds ending (done ++ [c]) (w.call c).2 := by
  cases c with
  | openBlock => exact holds.openBlock
  | line content => exact holds.line content
  | closeBlock =>
      refine holds.closeBlock fun outermost => ?_
      rw [call_closeBlock_of_depth_eq_zero outermost] at succeeds
      cases succeeds

/-- After any calls the writer holds what those should write that succeeded. -/
theorem after (holds : Holds ending done w) (calls : List Call) :
    Holds ending (done ++ w.effective calls) (w.after calls) := by
  induction calls generalizing done w with
  | nil => simpa [effective, Writer.after] using holds
  | cons c rest ih =>
      rw [after_cons]
      cases outcome : (w.call c).1 with
      | error fault =>
          rw [effective_cons_of_error outcome, call_of_error outcome]
          exact ih holds
      | ok value =>
          rw [effective_cons_of_ok outcome, List.append_cons]
          exact ih (holds.of_call_ok outcome)

end Holds

/-- After any calls the depth of a writer and the blocks that were closed with success make up the
blocks that were opened.  Closing then fails exactly at depth zero, and nothing later tells that
it was tried.  The text is complete exactly at depth zero, and it is the rendering of the calls
that succeeded. -/
theorem calls_are_rendered (ending : LineEnding) (calls : List Call) :
    let w := (empty ending).after calls
    let done := (empty ending).effective calls
    w.depth + done.count .closeBlock = calls.count .openBlock ∧
      ((w.call .closeBlock).1 = .error .underflow ↔ w.depth = 0) ∧
      (w.depth ≠ 0 → (w.call .closeBlock).1 = .ok ()) ∧
      (w.depth = 0 → ∀ later,
        (empty ending).after (calls ++ .closeBlock :: later) =
            (empty ending).after (calls ++ later) ∧
          ∃ earlier further, earlier.length = calls.length ∧
            (empty ending).outcomes (calls ++ later) = earlier ++ further ∧
            (empty ending).outcomes (calls ++ .closeBlock :: later) =
              earlier ++ .error .underflow :: further) ∧
      w.finish = if w.depth = 0 then .ok (rendering ending done) else .error (.unbalanced w.depth)
      := by
  intro w done
  have holds : Holds ending done w := (holds_empty ending).after calls
  refine ⟨?_, call_closeBlock_fails_iff w, call_closeBlock_of_depth_ne_zero, ?_, ?_⟩
  · have opened : done.count .openBlock = calls.count .openBlock :=
      count_openBlock_effective (empty ending) calls
    rw [← opened, holds.depth_eq]
    exact Nat.sub_add_cancel holds.balanced
  · intro outermost later
    have tried := call_closeBlock_of_depth_eq_zero outermost
    refine ⟨?_, (empty ending).outcomes calls, w.outcomes later, ?_, outcomes_append .., ?_⟩
    · rw [after_append, after_append, after_cons, tried]
    · exact length_outcomes ..
    · rw [outcomes_append, outcomes, tried]
  · rw [finish]
    split
    next outermost =>
      have isOutermost : blocksOf done = 0 := holds.depth_eq ▸ outermost
      rw [holds.written]
      rfl
    next => rfl

/-- A block is closed once too often, and the empty line behind it is not indented. -/
example : ((empty .lf).after
    [.openBlock, .line "a", .closeBlock, .closeBlock, .line "", .line "b"]).finish =
      .ok "\x7b\n    a\n\x7d\n\nb\n" := rfl

end Writer
end BindingGen
