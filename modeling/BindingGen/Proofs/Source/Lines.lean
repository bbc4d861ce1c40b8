import BindingGen.Proofs.Generation.FileNames
import BindingGen.Proofs.Platform.Validity
import BindingGen.Proofs.Source.Rendering

/-!
# Cutting a generated text into lines

A generated text is a list of lines with an ending after each.  Cutting it at its endings gives
these lines back, and nothing after the last of them, as long as no line holds a character that
ends one.  The names that accepted settings and valid catalogs paste into a class hold none.
-/

namespace BindingGen

/-- A line without carriage returns and line feeds. -/
def Unbroken (line : String) : Prop :=
  ∀ c ∈ line.toList, Text.isLineBreak c = false

instance (line : String) : Decidable (Unbroken line) :=
  inferInstanceAs (Decidable (∀ c ∈ line.toList, Text.isLineBreak c = false))

theorem Unbroken.append {first second : String} (unbroken : Unbroken first)
    (alsoUnbroken : Unbroken second) : Unbroken (first ++ second) := by
  intro c member
  rw [String.toList_append, List.mem_append] at member
  rcases member with inFirst | inSecond
  · exact unbroken c inFirst
  · exact alsoUnbroken c inSecond

namespace LineEnding

/-- The texts between the endings in some characters; there is one more than there are endings. -/
def cut : LineEnding → List Char → List (List Char)
  | .lf, '\n' :: cs => [] :: cut .lf cs
  | .crlf, '\r' :: '\n' :: cs => [] :: cut .crlf cs
  | _, [] => [[]]
  | ending, c :: cs =>
    match cut ending cs with
    | [] => [[c]]
    | line :: lines => (c :: line) :: lines

@[simp]
theorem cut_text_append (ending : LineEnding) (cs : List Char) :
    ending.cut (ending.text.toList ++ cs) = [] :: ending.cut cs := by
  cases ending <;> simp [text, cut]

theorem cut_cons {ending : LineEnding} {c : Char} (unbroken : Text.isLineBreak c = false)
    {cs line : List Char} {lines : List (List Char)} (rest : ending.cut cs = line :: lines) :
    ending.cut (c :: cs) = (c :: line) :: lines := by
  have notEither := Text.isLineBreak_eq_false_iff.mp unbroken
  rw [cut, rest]
  · intro _ isFeed
    exact notEither.2 isFeed
  · intro _ _ isReturn
    exact absurd isReturn notEither.1

theorem cut_append_text {ending : LineEnding} {line : List Char}
    (unbroken : ∀ c ∈ line, Text.isLineBreak c = false) (rest : List Char) :
    ending.cut (line ++ (ending.text.toList ++ rest)) = line :: ending.cut rest := by
  induction line with
  | nil => exact cut_text_append ending rest
  | cons c cs ih =>
      have further := ih fun d member => unbroken d (List.mem_cons_of_mem c member)
      exact cut_cons (unbroken c List.mem_cons_self) further

@[simp]
theorem toList_terminate_cons (ending : LineEnding) (line : String) (rest : List String) :
    (ending.terminate (line :: rest)).toList =
      line.toList ++ (ending.text.toList ++ (ending.terminate rest).toList) := by
  simp [terminate]

theorem cut_terminate (ending : LineEnding) {lines : List String}
    (unbroken : ∀ line ∈ lines, Unbroken line) :
    ending.cut (ending.terminate lines).toList = lines.map String.toList ++ [[]] := by
  induction lines with
  | nil => cases ending <;> simp [terminate, cut]
  | cons line rest ih =>
      rw [toList_terminate_cons, cut_append_text (unbroken line List.mem_cons_self),
        ih fun other member => unbroken other (List.mem_cons_of_mem line member)]
      rfl

/-- The characters of an ending in front of its line feed. -/
def beforeFeed : LineEnding → List Char
  | lf => []
  | crlf => ['\r']

theorem splitWhere_terminate (ending : LineEnding) {lines : List String}
    (unbroken : ∀ line ∈ lines, Unbroken line) :
    Text.splitWhere (· == '\n') (ending.terminate lines).toList =
      (lines.map fun line => line.toList ++ ending.beforeFeed) ++ [[]] := by
  induction lines with
  | nil => simp [terminate, Text.splitWhere]
  | cons line rest ih =>
      have ended : ending.text.toList = ending.beforeFeed ++ ['\n'] := by cases ending <;> rfl
      have noFeed : ∀ c ∈ line.toList ++ ending.beforeFeed, (c == '\n') = false := by
        intro c member
        rcases List.mem_append.mp member with inLine | isBefore
        · have notBreak := unbroken line List.mem_cons_self c inLine
          simpa using (Text.isLineBreak_eq_false_iff.mp notBreak).2
        · cases ending <;> simp_all [beforeFeed]
      have shape : (ending.terminate (line :: rest)).toList =
          (line.toList ++ ending.beforeFeed) ++ '\n' :: (ending.terminate rest).toList := by
        simp [ended]
      rw [shape, Text.splitWhere_append_separator rfl, Text.splitWhere_eq_singleton noFeed,
        ih fun other member => unbroken other (List.mem_cons_of_mem line member)]
      rfl

/-- Lines that are written with either ending are read back. -/
theorem lines_terminate (ending : LineEnding) {lines : List String}
    (unbroken : ∀ line ∈ lines, Unbroken line) :
    Text.lines (ending.terminate lines).toList = lines.map String.toList := by
  unfold Text.lines
  rw [splitWhere_terminate ending unbroken]
  simp only [List.dropLast_concat, List.getLast?_concat, List.map_map]
  refine List.map_congr_left fun line member => ?_
  have noReturn : line.toList.getLast? ≠ some '\r' := by
    intro isLast
    have notBreak := unbroken line member '\r' (List.mem_of_getLast? isLast)
    cases notBreak
  cases ending with
  | lf => simp [beforeFeed, noReturn]
  | crlf => simp [beforeFeed]

end LineEnding

/-! ## First lines -/

/-- The text in front of the first line break. -/
def firstLine (text : String) : List Char :=
  text.toList.takeWhile fun c => !Text.isLineBreak c

theorem firstLine_terminate {line : String} (unbroken : Unbroken line) (ending : LineEnding)
    (rest : List String) : firstLine (ending.terminate (line :: rest)) = line.toList := by
  unfold firstLine
  rw [LineEnding.toList_terminate_cons, List.takeWhile_append_of_pos]
  · cases ending <;> simp [LineEnding.text, Text.isLineBreak]
  · intro c member
    simp [unbroken c member]

/-! ## Lines of a class -/

theorem Unbroken.of_isIdentifier {text : String}
    (identifier : Text.isIdentifier text.toList = true) : Unbroken text :=
  fun _ member => Text.isLineBreak_eq_false_of_mem_identifier identifier member

theorem Unbroken.of_isQualifiedName {text : String}
    (qualified : Settings.isQualifiedName text = true) : Unbroken text := by
  intro c member
  rcases Text.separates_or_mem_splitWhere (p := (· == '.')) member with
    isDot | ⟨piece, pieceMem, inPiece⟩
  · rw [eq_of_beq isDot]
    decide
  · have identifier := List.all_eq_true.mp qualified piece pieceMem
    exact Text.isLineBreak_eq_false_of_mem_identifier identifier inPiece

theorem Unbroken.indented {content : String} (unbroken : Unbroken content) (depth : Nat) :
    Unbroken (Writer.indented depth content) := by
  unfold Writer.indented
  split
  · decide
  · refine Unbroken.append ?_ unbroken
    intro c member
    have isSpace : c = ' ' := by
      simp only [Writer.indentation, String.toList_ofList, List.mem_replicate] at member
      exact member.2
    rw [isSpace]
    decide

namespace SourceFile

theorem unbroken_bindingGuard {s : Settings} (accepted : s.validate = .ok ()) {p : Platform}
    (identifier : Text.isIdentifier p.constant.toList = true) : Unbroken (bindingGuard s p) := by
  have symbol := Unbroken.of_isIdentifier (Settings.accepted_iff.mp accepted).2.2.1
  have constant := Unbroken.of_isIdentifier identifier
  have shape : bindingGuard s p = p.constant ++ " && !" ++ s.referenceSymbol := by
    simp [bindingGuard, toString]
  rw [shape]
  exact (constant.append (by decide)).append symbol

/-- A class is made of unbroken lines when its guard and its declarations are unbroken. -/
theorem unbroken_of_mem_classLines {s : Settings} (accepted : s.validate = .ok ())
    {guard : String} (guardUnbroken : Unbroken guard) {declarations : List String}
    (unbroken : ∀ declaration ∈ declarations, Unbroken declaration) :
    ∀ line ∈ classLines s guard declarations, Unbroken line := by
  obtain ⟨namespaceQualified, classSymbol, -⟩ := Settings.accepted_iff.mp accepted
  have namespaceUnbroken := Unbroken.of_isQualifiedName namespaceQualified
  have classUnbroken := Unbroken.of_isIdentifier classSymbol
  intro line member
  simp only [classLines, List.mem_append, List.mem_cons, List.mem_map, List.not_mem_nil,
    or_false] at member
  rcases member with ((rfl | rfl | rfl | rfl | rfl | rfl) | ⟨declaration, isDeclared, rfl⟩) |
    rfl | rfl | rfl
  · exact Unbroken.append (by decide) guardUnbroken
  · decide
  · exact Unbroken.append (by decide) namespaceUnbroken
  · decide
  · exact (Unbroken.append (by decide) classUnbroken).indented 1
  · exact Unbroken.indented (by decide) 1
  · exact (unbroken declaration isDeclared).indented 2
  · exact Unbroken.indented (by decide) 1
  · decide
  · decide

end SourceFile
end BindingGen
