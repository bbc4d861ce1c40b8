import BindingGen.Proofs.Prototype.Listing
import BindingGen.Proofs.Prototype.Normal
import BindingGen.Proofs.Prototype.Signature
import BindingGen.Proofs.Source.Lines

/-!
# Listings of signatures

Writing the signatures of a listing, one a line, gives a listing of the same prototypes.  None of
its lines is blank, broken or mistaken for another, and no byte order mark stands in front.
-/

namespace BindingGen
namespace Prototype

theorem unbroken_signature {line : String} {p : Prototype} (parsed : parse line = .ok p) :
    Unbroken p.signature :=
  fun _ member => (normal_of_parse parsed).isLineBreak_eq_false_of_mem_signature member

/-- The prototypes of a listing were each read from one of its lines. -/
theorem exists_parse_of_mem {keepRepeated : Bool} {text : String} {ps : List Prototype}
    (read : parseListing keepRepeated text = .ok ps) {p : Prototype} (member : p ∈ ps) :
    ∃ line, parse line = .ok p := by
  have parses := ((parseListing_eq_ok_iff keepRepeated text).mp read).1
  clear read
  generalize (listingLines text).filter isFilled = lines at parses
  induction parses with
  | nil => cases member
  | cons parsed _ ih =>
      rcases List.mem_cons.mp member with rfl | later
      · exact ⟨_, parsed⟩
      · exact ih later

theorem Listing.withoutMark_of_not_mem {cs : List Char} (absent : '\uFEFF' ∉ cs) :
    withoutMark cs = cs :=
  withoutMark_of_head? fun marked => absent (List.mem_of_head? marked)

theorem mark_not_mem_terminate (ending : LineEnding) {lines : List String}
    (absent : ∀ line ∈ lines, '\uFEFF' ∉ line.toList) :
    '\uFEFF' ∉ (ending.terminate lines).toList := by
  induction lines with
  | nil => simp [LineEnding.terminate]
  | cons line rest ih =>
      have inEnding : '\uFEFF' ∉ ending.text.toList := by cases ending <;> decide
      have later := ih fun other member => absent other (List.mem_cons_of_mem line member)
      simp [absent line List.mem_cons_self, inEnding, later]

theorem parseListing_signatures {keepRepeated : Bool} {text : String} {ps : List Prototype}
    (read : parseListing keepRepeated text = .ok ps) (ending : LineEnding) :
    parseListing keepRepeated (ending.terminate (ps.map signature)) = .ok ps := by
  have parsed : ∀ p ∈ ps, parse p.signature = .ok p := by
    intro p member
    obtain ⟨line, isParsed⟩ := exists_parse_of_mem read member
    exact parse_signature isParsed
  have lines : listingLines (ending.terminate (ps.map signature)) =
      ps.map fun p => p.signature.toList := by
    rw [listingLines, Listing.withoutMark_of_not_mem, LineEnding.lines_terminate, List.map_map]
    · rfl
    · intro line member
      obtain ⟨p, inListing, rfl⟩ := List.mem_map.mp member
      exact unbroken_signature (parsed p inListing)
    · refine mark_not_mem_terminate ending fun line member => ?_
      obtain ⟨p, inListing, rfl⟩ := List.mem_map.mp member
      exact mark_not_mem_signature (parsed p inListing)
  have filled : (ps.map fun p => p.signature.toList).filter isFilled =
      ps.map fun p => p.signature.toList := by
    refine List.filter_eq_self.mpr fun line member => ?_
    obtain ⟨p, inListing, rfl⟩ := List.mem_map.mp member
    exact isFilled_of_parse (by rw [String.ofList_toList]; exact parsed p inListing)
  have apart := ((parseListing_eq_ok_iff keepRepeated text).mp read).2
  refine (parseListing_eq_ok_iff keepRepeated _).mpr ⟨?_, apart⟩
  rw [lines, filled, List.forall₂_map_left_iff, List.forall₂_same]
  intro p inListing
  rw [String.ofList_toList]
  exact parsed p inListing

/-- A signature is read as the prototype it is the signature of, signatures of prototypes that were
read are therefore different, and so are the signatures of a listing, one a line, read as the same
listing. -/
theorem signatures_are_read_back :
    (∀ line p, parse line = .ok p → parse p.signature = .ok p) ∧
      (∀ line otherLine p q, parse line = .ok p → parse otherLine = .ok q →
        p.signature = q.signature → p = q) ∧
      ∀ keepRepeated text ps, parseListing keepRepeated text = .ok ps →
        ∀ ending : LineEnding,
          parseListing keepRepeated (ending.terminate (ps.map signature)) = .ok ps := by
  refine ⟨fun line p => parse_signature, ?_, fun keepRepeated text ps => parseListing_signatures⟩
  intro line otherLine p q parsed alsoParsed same
  have readBack := parse_signature parsed
  rw [same, parse_signature alsoParsed] at readBack
  exact (Except.ok.inj readBack).symm

theorem signatures_are_read_back_spaced :
    parse "void * f( void )" = .ok ⟨"f", [], "void *"⟩ ∧
      parse (signature ⟨"f", [], "void *"⟩) = .ok ⟨"f", [], "void *"⟩ ∧
      parseListing false "\uFEFFvoid * f( void )\n\n int\tg(int*a,b)" =
        .ok [⟨"f", [], "void *"⟩, ⟨"g", ["int*a", "b"], "int"⟩] ∧
      parseListing false "void * f()\r\nint g(int*a, b)\r\n" =
        .ok [⟨"f", [], "void *"⟩, ⟨"g", ["int*a", "b"], "int"⟩] := by
  have parsed : parse "void * f( void )" = .ok ⟨"f", [], "void *"⟩ := rfl
  have read : parseListing false "\uFEFFvoid * f( void )\n\n int\tg(int*a,b)" =
      .ok [⟨"f", [], "void *"⟩, ⟨"g", ["int*a", "b"], "int"⟩] := rfl
  exact ⟨parsed, signatures_are_read_back.1 _ _ parsed, read,
    signatures_are_read_back.2.2 _ _ _ read .crlf⟩

end Prototype
end BindingGen
