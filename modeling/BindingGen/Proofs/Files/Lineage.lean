import BindingGen.Proofs.Files.Parents
import BindingGen.Proofs.Files.Updates

/-!
# The line of a path

A path followed by its parent, by the parent of that and so on ends after finitely many steps:
the parent has fewer segments that count.  So the ancestors of a path are this whole line.  Along
the line of a path without dots every directory stands directly in the next one.
-/

namespace BindingGen
namespace Path

/-- A path and its parents up to one that has no parent. -/
inductive Lineage : String → List String → Prop
  | last {path : String} : parent? path = none → Lineage path [path]
  | next {path parent : String} {farther : List String} :
      parent? path = some parent → Lineage parent farther → Lineage path (path :: farther)

/-- The segments of a path without those at its end that do not count, from the last to the
first. -/
def counted (path : String) : List (List Char) :=
  dropSkipped (segments path).reverse

/-- The line of a path is determined by the path. -/
theorem Lineage.unique {path : String} {first second : List String} (line : Lineage path first)
    (alsoLine : Lineage path second) : first = second := by
  induction line generalizing second with
  | last isLast =>
      cases alsoLine with
      | last _ => rfl
      | next isParent _ => cases isLast.symm.trans isParent
  | next isParent _ ih =>
      cases alsoLine with
      | last isLast => cases isLast.symm.trans isParent
      | next alsoParent further =>
          obtain rfl := Option.some.inj (isParent.symm.trans alsoParent)
          rw [ih further]

/-! ## Segments that count -/

theorem dropSkipped_suffix (segments : List (List Char)) :
    dropSkipped segments <:+ segments := by
  fun_induction dropSkipped segments with
  | case1 => exact List.suffix_rfl
  | case2 segment isEmpty => exact List.nil_suffix
  | case3 segment filled => exact List.suffix_rfl
  | case4 segment rest _ skipped ih => exact ih.trans (List.suffix_cons segment rest)
  | case5 segment rest _ counts => exact List.suffix_rfl

@[simp]
theorem dropSkipped_dropSkipped (segments : List (List Char)) :
    dropSkipped (dropSkipped segments) = dropSkipped segments := by
  fun_induction dropSkipped segments with
  | case1 => rfl
  | case2 segment isEmpty => rfl
  | case3 segment filled => simp [dropSkipped, filled]
  | case4 segment rest _ skipped ih => exact ih
  | case5 segment rest further counts =>
    cases rest <;> simp_all [dropSkipped]

theorem slash_not_mem_of_mem_segments {path : String} {segment : List Char}
    (member : segment ∈ segments path) : '/' ∉ segment := by
  intro inSegment
  simpa using (Text.mem_of_mem_splitWhere member inSegment).2

theorem segments_ofReversed {kept : List (List Char)} (absolute : Bool) (filled : kept ≠ [])
    (whole : ∀ segment ∈ kept, '/' ∉ segment) :
    segments (ofReversed absolute kept) = kept.reverse := by
  have someSegment : kept.isEmpty = false := by simpa using filled
  have text : (ofReversed absolute kept).toList = ['/'].intercalate kept.reverse := by
    rw [ofReversed, someSegment]
    exact String.toList_ofList
  rw [segments, text]
  apply Text.splitWhere_intercalate
  · simpa using filled
  · simpa using whole

/-- The parent of a path is what is left without its last segment that counts. -/
theorem exists_of_parent? {path parent : String} (isParent : parent? path = some parent) :
    ∃ segment rest, counted path = segment :: rest ∧
      parent = ofReversed (isAbsolute path) (dropSkipped rest) ∧
      ∀ other ∈ dropSkipped rest, '/' ∉ other := by
  unfold parent? at isParent
  cases cut : dropSkipped (segments path).reverse with
  | nil =>
      rw [cut] at isParent
      cases isParent
  | cons segment rest =>
      rw [cut] at isParent
      cases isParent
      refine ⟨segment, rest, cut, rfl, ?_⟩
      intro other member
      have inCounted : other ∈ dropSkipped (segments path).reverse := by
        rw [cut]
        exact List.mem_cons_of_mem segment ((dropSkipped_suffix rest).subset member)
      have inReversed := (dropSkipped_suffix _).subset inCounted
      exact slash_not_mem_of_mem_segments (List.mem_reverse.mp inReversed)

theorem counted_ofReversed (absolute : Bool) {segments : List (List Char)}
    (whole : ∀ segment ∈ dropSkipped segments, '/' ∉ segment) :
    counted (ofReversed absolute (dropSkipped segments)) = dropSkipped segments := by
  by_cases nothing : dropSkipped segments = []
  · rw [nothing]
    cases absolute <;> rfl
  · rw [counted, segments_ofReversed _ nothing whole, List.reverse_reverse,
      dropSkipped_dropSkipped]

theorem length_counted_of_parent? {path parent : String} (isParent : parent? path = some parent) :
    (counted parent).length < (counted path).length := by
  obtain ⟨segment, rest, cut, rfl, whole⟩ := exists_of_parent? isParent
  have shorter := (dropSkipped_suffix rest).length_le
  rw [cut, counted_ofReversed _ whole, List.length_cons]
  omega

/-! ## The line of ancestors -/

theorem lineage_parentsWithin {fuel : Nat} {path : String}
    (enough : (counted path).length ≤ fuel) : Lineage path (path :: parentsWithin fuel path) := by
  induction fuel generalizing path with
  | zero =>
      apply Lineage.last
      cases isParent : parent? path with
      | none => rfl
      | some parent =>
          have shorter := length_counted_of_parent? isParent
          omega
  | succ fuel ih =>
      cases isParent : parent? path with
      | none =>
          rw [parentsWithin, isParent]
          exact .last isParent
      | some parent =>
          rw [parentsWithin, isParent]
          have shorter := length_counted_of_parent? isParent
          exact .next isParent (ih (by omega))

/-- The ancestors of a path are its whole line. -/
theorem lineage_ancestors (path : String) : Lineage path (ancestors path) := by
  apply lineage_parentsWithin
  have shorter := (dropSkipped_suffix (segments path).reverse).length_le
  rwa [List.length_reverse] at shorter

theorem length_parentsWithin_le (fuel : Nat) (path : String) :
    (parentsWithin fuel path).length ≤ fuel := by
  induction fuel generalizing path with
  | zero => exact Nat.le_refl 0
  | succ fuel ih =>
      rw [parentsWithin]
      cases parent? path with
      | none => exact Nat.zero_le _
      | some parent => exact Nat.succ_le_succ (ih parent)

theorem length_ancestors_le (path : String) :
    (ancestors path).length ≤ (segments path).length + 1 :=
  Nat.succ_le_succ (length_parentsWithin_le _ path)

/-! ## Lines without dots -/

/-- Dropping segments that do not count drops no name, unless one of them is a dot. -/
theorem filter_dropSkipped {segments : List (List Char)} (noSame : ['.'] ∉ segments) :
    (dropSkipped segments).filter (fun segment => !segment.isEmpty) =
      segments.filter fun segment => !segment.isEmpty := by
  fun_induction dropSkipped segments with
  | case1 => rfl
  | case2 segment isEmpty => simp [isEmpty]
  | case3 segment filled => rfl
  | case4 segment rest _ skipped ih =>
      rw [ih (fun member => noSame (List.mem_cons_of_mem segment member))]
      have apart : segment ≠ ['.'] := fun same => noSame (same ▸ List.mem_cons_self)
      have isEmpty : segment.isEmpty = true := by simpa [apart] using skipped
      simp [isEmpty]
  | case5 segment rest _ counts => rfl

/-- The first segment that counts is not empty. -/
theorem head_ne_nil_of_dropSkipped {segments rest : List (List Char)} {segment : List Char}
    (cut : dropSkipped segments = segment :: rest) : segment ≠ [] := by
  fun_induction dropSkipped segments with
  | case1 => cases cut
  | case2 segment isEmpty => cases cut
  | case3 segment filled =>
      cases cut
      simpa using filled
  | case4 segment rest _ skipped ih => exact ih cut
  | case5 segment rest _ counts =>
      cases cut
      rintro rfl
      simp at counts

theorem names_eq_reverse (path : String) : names path =
    ((segments path).reverse.filter fun segment => !segment.isEmpty).reverse.map
      String.ofList := by
  rw [← List.filter_reverse, List.reverse_reverse, names]

theorem names_ofReversed (absolute : Bool) {kept : List (List Char)}
    (whole : ∀ segment ∈ kept, '/' ∉ segment) :
    names (ofReversed absolute kept) =
      (kept.filter fun segment => !segment.isEmpty).reverse.map String.ofList := by
  by_cases nothing : kept = []
  · rw [nothing]
    cases absolute <;> rfl
  · rw [names_eq_reverse, segments_ofReversed _ nothing whole, List.reverse_reverse]

theorem isAbsolute_iff {path : String} :
    isAbsolute path = true ↔ ∃ further, further ≠ [] ∧ segments path = [] :: further := by
  unfold isAbsolute segments
  cases path.toList with
  | nil => simp [Text.splitWhere]
  | cons c cs =>
      by_cases slash : c = '/'
      · have further := Text.splitWhere_ne_nil (· == '/') cs
        simp [slash, further]
      · obtain ⟨piece, pieces, cut⟩ :=
          List.exists_cons_of_ne_nil (Text.splitWhere_ne_nil (· == '/') cs)
        rw [Text.splitWhere_cons_of_not_separator (by simpa using slash) cut]
        simp [slash]

theorem isAbsolute_of_parent? {path parent : String} (isParent : parent? path = some parent) :
    isAbsolute parent = isAbsolute path := by
  obtain ⟨segment, rest, cut, rfl, whole⟩ := exists_of_parent? isParent
  by_cases nothing : dropSkipped rest = []
  · rw [nothing]
    cases isAbsolute path <;> rfl
  · have within : dropSkipped rest <:+ (segments path).reverse := by
      have inPath := dropSkipped_suffix (segments path).reverse
      rw [← counted, cut] at inPath
      exact (dropSkipped_suffix rest).trans ((List.suffix_cons segment rest).trans inPath)
    obtain ⟨dropped, shape⟩ := within
    have ofPath : segments path = (dropSkipped rest).reverse ++ dropped.reverse := by
      rw [← List.reverse_append, shape, List.reverse_reverse]
    have ofParent := segments_ofReversed (isAbsolute path) nothing whole
    rw [Bool.eq_iff_iff, isAbsolute_iff, isAbsolute_iff, ofParent, ofPath]
    constructor
    · rintro ⟨further, filled, front⟩
      refine ⟨further ++ dropped.reverse, by simp [filled], ?_⟩
      rw [front, List.cons_append]
    · rintro ⟨further, -, front⟩
      obtain ⟨first, others, kept⟩ : ∃ first others,
          (dropSkipped rest).reverse = first :: others :=
        List.exists_cons_of_ne_nil (by simpa using nothing)
      rw [kept, List.cons_append] at front
      obtain ⟨rfl, -⟩ := List.cons.inj front
      refine ⟨others, ?_, kept⟩
      rintro rfl
      have alone : dropSkipped rest = [[]] := by simpa using congrArg List.reverse kept
      exact head_ne_nil_of_dropSkipped alone rfl

/-- A path without dots leads through the names of its parent and one more. -/
theorem names_of_parent? {path parent : String} (isParent : parent? path = some parent)
    (noSame : "." ∉ names path) : ∃ name, names path = names parent ++ [name] := by
  obtain ⟨segment, rest, cut, rfl, whole⟩ := exists_of_parent? isParent
  have noDot : ['.'] ∉ (segments path).reverse := by
    intro member
    apply noSame
    rw [names]
    exact List.mem_map.mpr ⟨['.'], List.mem_filter.mpr ⟨List.mem_reverse.mp member, rfl⟩, rfl⟩
  have filled := head_ne_nil_of_dropSkipped cut
  have inCounted : ['.'] ∉ counted path :=
    fun member => noDot ((dropSkipped_suffix _).subset member)
  have noDotInRest : ['.'] ∉ rest := by
    intro member
    rw [cut] at inCounted
    exact inCounted (List.mem_cons_of_mem segment member)
  refine ⟨String.ofList segment, ?_⟩
  rw [names_eq_reverse, ← filter_dropSkipped noDot, ← counted, cut, names_ofReversed _ whole,
    filter_dropSkipped noDotInRest]
  simp [filled]

/-- A path without dots leads to something directly inside the place of its parent. -/
theorem target_of_parent? {path parent : String} (isParent : parent? path = some parent)
    (components : ∀ name ∈ names path, IsComponent name) (current : Place) :
    ∃ name, Store.target current path = Store.target current parent ++ [name] ∧
      ∀ other ∈ names parent, IsComponent other := by
  have noSame : "." ∉ names path := fun member => (components "." member).notSame rfl
  obtain ⟨name, further⟩ := names_of_parent? isParent noSame
  rw [further] at components
  have component := components name (by simp)
  refine ⟨name, ?_, fun other member => components other (List.mem_append_left [name] member)⟩
  rw [Store.target, Store.target, Store.origin, Store.origin, isAbsolute_of_parent? isParent,
    further, Store.resolve_append]
  simp [Store.resolve, Store.advance, component.notSame, component.notUp]

theorem Lineage.length_target_le {path : String} {directories : List String}
    (line : Lineage path directories) (components : ∀ name ∈ names path, IsComponent name)
    (current : Place) {directory : String} (member : directory ∈ directories) :
    (Store.target current directory).length ≤ (Store.target current path).length := by
  induction line with
  | last _ =>
      obtain rfl := List.mem_singleton.mp member
      exact Nat.le_refl _
  | next isParent _ ih =>
      obtain ⟨name, below, stillComponents⟩ := target_of_parent? isParent components current
      rcases List.mem_cons.mp member with rfl | further
      · exact Nat.le_refl _
      · have shorter := ih stillComponents further
        rw [below, List.length_append]
        omega

/-- Along the line of a path without dots the places come nearer to the root. -/
theorem Lineage.pairwise_target {path : String} {directories : List String}
    (line : Lineage path directories) (components : ∀ name ∈ names path, IsComponent name)
    (current : Place) : directories.Pairwise fun near far =>
      (Store.target current far).length < (Store.target current near).length := by
  induction line with
  | last _ => exact List.pairwise_singleton _ _
  | next isParent further ih =>
      obtain ⟨name, below, stillComponents⟩ := target_of_parent? isParent components current
      refine List.pairwise_cons.mpr ⟨?_, ih stillComponents⟩
      intro far member
      have shorter := further.length_target_le stillComponents current member
      rw [below, List.length_append, List.length_singleton]
      omega

end Path
end BindingGen
