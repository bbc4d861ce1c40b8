import BindingGen.Proofs.Prototype.Checks
import BindingGen.Proofs.Text.Characters

/-!
# Prototypes in normal form

Whatever a line looks like, the prototype read from it has an identifier for its name, and the
texts of its types are collapsed.  Its signature therefore stays on one line.
-/

namespace BindingGen
namespace Prototype

open Text

/-- What every prototype is that was read from a line. -/
structure Normal (p : Prototype) : Prop where
  identifier : isIdentifier p.name.toList = true
  returnCollapsed : ∃ text, p.returnType = String.ofList (collapseBlanks text)
  parametersCollapsed :
    ∀ parameter ∈ p.parameters, ∃ text, parameter = String.ofList (collapseBlanks text)

theorem of_splitHead {head : List Char} {returnType name : String}
    (headSplit : splitHead head = .ok (returnType, name)) :
    isIdentifier name.toList = true ∧
      ∃ text, returnType = String.ofList (collapseBlanks text) := by
  unfold splitHead Reader.splitHead at headSplit
  simp only [Reader.direct_take, Reader.direct_tokens, ok_bind] at headSplit
  split at headSplit
  · cases headSplit
  · split at headSplit
    · cases headSplit
    next identifier =>
      split at headSplit
      · cases headSplit
      · split at headSplit
        · cases headSplit
        · cases headSplit
          exact ⟨by simpa using identifier, _, rfl⟩

theorem of_parseParameter {position : Nat} {text : List Char} {parameter : String}
    (parsed : parseParameter position text = .ok parameter) :
    parameter = String.ofList (collapseBlanks text) := by
  unfold parseParameter Reader.parameter at parsed
  simp only [Reader.direct_tokens, ok_bind] at parsed
  split at parsed
  · cases parsed
  · split at parsed
    · cases parsed
    · exact (Except.ok.inj parsed).symm

theorem of_parseParametersFrom {position : Nat} {pieces : List (List Char)}
    {parameters : List String} (parsed : parseParametersFrom position pieces = .ok parameters) :
    ∀ parameter ∈ parameters, ∃ text, parameter = String.ofList (collapseBlanks text) := by
  induction pieces generalizing position parameters with
  | nil =>
      cases parsed
      simp
  | cons piece pieces ih =>
      simp only [parseParametersFrom_cons, bind_eq_ok_iff] at parsed
      obtain ⟨first, isFirst, rest, isRest, whole⟩ := parsed
      cases whole
      intro parameter member
      rcases List.mem_cons.mp member with rfl | later
      · exact ⟨_, of_parseParameter isFirst⟩
      · exact ih isRest parameter later

theorem of_parseParameters {list : List Char} {parameters : List String}
    (parsed : parseParameters list = .ok parameters) :
    ∀ parameter ∈ parameters, ∃ text, parameter = String.ofList (collapseBlanks text) := by
  unfold parseParameters Reader.parameters at parsed
  dsimp only at parsed
  split at parsed
  · cases parsed
    simp
  · exact of_parseParametersFrom parsed

theorem normal_of_parse {line : String} {p : Prototype} (parsed : parse line = .ok p) :
    p.Normal := by
  obtain ⟨opening, -, isHead, isList⟩ := exists_enclosed_of_parseTrimmed parsed
  obtain ⟨identifier, returnCollapsed⟩ := of_splitHead isHead
  exact ⟨identifier, returnCollapsed, of_parseParameters isList⟩

theorem Normal.isLineBreak_eq_false_of_mem_signature {p : Prototype} (normal : p.Normal)
    {c : Char} (member : c ∈ p.signature.toList) : isLineBreak c = false := by
  have collapsed {text : String} (isCollapsed : ∃ cs, text = String.ofList (collapseBlanks cs))
      (inText : c ∈ text.toList) : isLineBreak c = false := by
    obtain ⟨cs, rfl⟩ := isCollapsed
    rw [String.toList_ofList] at inText
    exact isLineBreak_eq_false_of_mem_collapseBlanks inText
  have fixed : ∀ text ∈ [" ", "(", ", ", ")"], ∀ d ∈ text.toList, isLineBreak d = false := by
    decide
  simp only [signature, String.toList_append, String.toList_intercalate, List.mem_append] at member
  rcases member with ((((inReturn | space) | inName) | opening) | inParameters) | closing
  · exact collapsed normal.returnCollapsed inReturn
  · exact fixed " " (by simp) c space
  · exact isLineBreak_eq_false_of_mem_identifier normal.identifier inName
  · exact fixed "(" (by simp) c opening
  · rcases mem_or_mem_of_mem_intercalate inParameters with separator | ⟨piece, pieceMem, inPiece⟩
    · exact fixed ", " (by simp) c separator
    · obtain ⟨parameter, parameterMem, rfl⟩ := List.mem_map.mp pieceMem
      exact collapsed (normal.parametersCollapsed parameter parameterMem) inPiece
  · exact fixed ")" (by simp) c closing

end Prototype
end BindingGen
