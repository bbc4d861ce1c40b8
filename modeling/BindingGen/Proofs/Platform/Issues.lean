import BindingGen.Proofs.Platform.Selection

/-!
# The issues of a catalog

Checking a catalog reports every broken rule once and in order: entry by entry, and within an
entry by the part that a rule is about.  Which rules an entry breaks is said here of the catalog
alone, by the index of the entry, and not of the entries that checking carries along.  What is wrong
with one part of an entry hides nothing of what is wrong with another.
-/

namespace BindingGen
namespace Catalog

/-- The part of an entry that a rule is about, in the order in which the parts are checked. -/
def Rule.part : Rule → Nat
  | .noPlatforms => 0
  | .blankId | .repeatedId => 1
  | .invalidConstant _ | .repeatedConstant _ => 2
  | .blankFamilyId => 3
  | .invalidExtension _ => 4

/-- The first issue is about an earlier part than the second. -/
def Issue.Precedes (first second : Issue) : Prop :=
  first.rule.part < second.rule.part

/-- What is wrong with an entry that comes after the entries `before`. -/
inductive Breaks (before : List Platform) (p : Platform) : Issue → Prop where
  | blankId : isBlankText p.id = true → Breaks before p ⟨none, .blankId⟩
  | repeatedId :
    isBlankText p.id = false → (∃ q ∈ before, q.id = p.id) →
      Breaks before p ⟨some p.id, .repeatedId⟩
  | invalidConstant :
    Text.isIdentifier p.constant.toList = false →
      Breaks before p ⟨some p.id, .invalidConstant p.constant⟩
  | repeatedConstant :
    Text.isIdentifier p.constant.toList = true → (∃ q ∈ before, q.constant = p.constant) →
      Breaks before p ⟨some p.id, .repeatedConstant p.constant⟩
  | blankFamilyId :
    isBlankText p.family.id = true → Breaks before p ⟨some p.id, .blankFamilyId⟩
  | invalidExtension :
    p.family.libraryExtension = "" ∨ p.family.libraryExtension.toList.head? = some '.' →
      Breaks before p ⟨some p.id, .invalidExtension p.family.libraryExtension⟩

/-- The issues are those of each entry in the order of the entries, and those of an entry are in the
order of its parts, with one issue at most for each part. -/
def Exact (catalog : Catalog) (issues : List Issue) : Prop :=
  ∃ found : Nat → List Issue,
    issues = (List.range catalog.length).flatMap found ∧
      ∀ i p, catalog[i]? = some p →
        (found i).Pairwise Issue.Precedes ∧
          ∀ issue, issue ∈ found i ↔ Breaks (catalog.take i) p issue

/-! ## The issues of one entry -/

section Entry

variable {before : List Platform} {p : Platform} {issue : Issue}

@[simp]
theorem mem_idIssues_iff :
    issue ∈ idIssues before p ↔
      isBlankText p.id = true ∧ issue = ⟨none, .blankId⟩ ∨
        isBlankText p.id = false ∧ (∃ q ∈ before, q.id = p.id) ∧
          issue = ⟨some p.id, .repeatedId⟩ := by
  have taken : (before.any fun q => q.id == p.id) = true ↔ ∃ q ∈ before, q.id = p.id := by
    simp
  rw [← taken]
  unfold idIssues
  split
  next blank => simp [blank]
  next filled =>
    split
    next shared => simp [filled, shared]
    next fresh => simp [filled, fresh]

@[simp]
theorem mem_constantIssues_iff :
    issue ∈ constantIssues before p ↔
      Text.isIdentifier p.constant.toList = false ∧
          issue = ⟨some p.id, .invalidConstant p.constant⟩ ∨
        Text.isIdentifier p.constant.toList = true ∧ (∃ q ∈ before, q.constant = p.constant) ∧
          issue = ⟨some p.id, .repeatedConstant p.constant⟩ := by
  have taken : (before.any fun q => q.constant == p.constant) = true ↔
      ∃ q ∈ before, q.constant = p.constant := by
    simp
  rw [← taken]
  unfold constantIssues
  split
  next invalid => simp_all
  next valid =>
    split
    next shared => simp_all
    next fresh => simp_all

@[simp]
theorem mem_familyIssues_iff :
    issue ∈ familyIssues p ↔
      isBlankText p.family.id = true ∧ issue = ⟨some p.id, .blankFamilyId⟩ := by
  unfold familyIssues
  split
  next blank => simp [blank]
  next filled => simp [filled]

@[simp]
theorem mem_extensionIssues_iff :
    issue ∈ extensionIssues p ↔
      (p.family.libraryExtension = "" ∨ p.family.libraryExtension.toList.head? = some '.') ∧
        issue = ⟨some p.id, .invalidExtension p.family.libraryExtension⟩ := by
  have invalid : (p.family.libraryExtension.isEmpty ||
      p.family.libraryExtension.toList.head? == some '.') = true ↔
      p.family.libraryExtension = "" ∨ p.family.libraryExtension.toList.head? = some '.' := by
    simp
  rw [← invalid]
  unfold extensionIssues
  dsimp only
  split
  next broken => simp [broken]
  next kept => simp [kept]

@[grind →]
theorem part_of_mem_idIssues (found : issue ∈ idIssues before p) : issue.rule.part = 1 := by
  rcases mem_idIssues_iff.mp found with ⟨-, rfl⟩ | ⟨-, -, rfl⟩ <;> rfl

@[grind →]
theorem part_of_mem_constantIssues (found : issue ∈ constantIssues before p) :
    issue.rule.part = 2 := by
  rcases mem_constantIssues_iff.mp found with ⟨-, rfl⟩ | ⟨-, -, rfl⟩ <;> rfl

@[grind →]
theorem part_of_mem_familyIssues (found : issue ∈ familyIssues p) : issue.rule.part = 3 := by
  obtain ⟨-, rfl⟩ := mem_familyIssues_iff.mp found
  rfl

@[grind →]
theorem part_of_mem_extensionIssues (found : issue ∈ extensionIssues p) :
    issue.rule.part = 4 := by
  obtain ⟨-, rfl⟩ := mem_extensionIssues_iff.mp found
  rfl

/-- The parts of an entry are checked in their order, and each has one issue at most. -/
theorem pairwise_entryIssues (before : List Platform) (p : Platform) :
    (entryIssues before p).Pairwise Issue.Precedes := by
  have ids : (idIssues before p).Pairwise Issue.Precedes := by
    unfold idIssues
    split
    · simp
    · split <;> simp
  have constants : (constantIssues before p).Pairwise Issue.Precedes := by
    unfold constantIssues
    split
    · simp
    · split <;> simp
  have families : (familyIssues p).Pairwise Issue.Precedes := by
    unfold familyIssues
    split <;> simp
  have extensions : (extensionIssues p).Pairwise Issue.Precedes := by
    unfold extensionIssues
    dsimp only
    split <;> simp
  unfold entryIssues
  simp only [List.pairwise_append, List.mem_append, Issue.Precedes] at *
  exact ⟨⟨⟨ids, constants, by grind⟩, families, by grind⟩, extensions, by grind⟩

/-- An entry has exactly the issues of the rules that it breaks. -/
@[simp]
theorem mem_entryIssues_iff : issue ∈ entryIssues before p ↔ Breaks before p issue := by
  simp only [entryIssues, List.mem_append, mem_idIssues_iff, mem_constantIssues_iff,
    mem_familyIssues_iff, mem_extensionIssues_iff]
  constructor
  · rintro ((((⟨blank, rfl⟩ | ⟨filled, taken, rfl⟩) | ⟨invalid, rfl⟩ | ⟨valid, taken, rfl⟩) |
      ⟨blank, rfl⟩) | ⟨broken, rfl⟩)
    · exact .blankId blank
    · exact .repeatedId filled taken
    · exact .invalidConstant invalid
    · exact .repeatedConstant valid taken
    · exact .blankFamilyId blank
    · exact .invalidExtension broken
  · intro breaks
    cases breaks <;> simp_all

end Entry

/-! ## The issues of all entries -/

/-- The issues of the entry at an index of some entries that come after others. -/
def issuesAt (before rest : List Platform) (i : Nat) : List Issue :=
  rest[i]?.elim [] (entryIssues (before ++ rest.take i))

theorem issuesAfter_eq_flatMap (before rest : List Platform) :
    issuesAfter before rest = (List.range rest.length).flatMap (issuesAt before rest) := by
  induction rest generalizing before with
  | nil => rfl
  | cons p rest ih =>
      have first : issuesAt before (p :: rest) 0 = entryIssues before p := by
        simp [issuesAt]
      have later (i : Nat) :
          issuesAt before (p :: rest) (i + 1) = issuesAt (before ++ [p]) rest i := by
        simp [issuesAt]
      rw [issuesAfter, ih, List.length_cons, List.range_succ_eq_map, List.flatMap_cons,
        List.flatMap_map, first]
      simp only [Nat.succ_eq_add_one, later]

theorem issues_of_ne_nil {catalog : Catalog} (filled : catalog ≠ []) :
    catalog.issues = issuesAfter [] catalog := by
  rw [issues, if_neg (by simpa using filled)]

theorem exact_issues {catalog : Catalog} (filled : catalog ≠ []) :
    catalog.Exact catalog.issues := by
  refine ⟨issuesAt [] catalog, ?_, ?_⟩
  · rw [issues_of_ne_nil filled, issuesAfter_eq_flatMap]
  · intro i p isEntry
    have found : issuesAt [] catalog i = entryIssues (catalog.take i) p := by
      rw [issuesAt, isEntry]
      rfl
    rw [found]
    exact ⟨pairwise_entryIssues _ p, fun issue => mem_entryIssues_iff⟩

/-! ### Repetitions -/

section Repetitions

variable {α : Type} [DecidableEq α] {view : Issue → α} {seen : α} {value : Platform → String}
  {text : String}

/-- What is seen of the issues of one entry is seen once at most if it tells the part. -/
theorem count_map_entryIssues
    (tells : ∀ first second, view first = view second → first.rule.part = second.rule.part)
    (before : List Platform) (p : Platform) (seen : α) :
    ((entryIssues before p).map view).count seen =
      if seen ∈ (entryIssues before p).map view then 1 else 0 := by
  have apart : ((entryIssues before p).map view).Nodup :=
    List.pairwise_map.mpr ((pairwise_entryIssues before p).imp fun precedes same =>
      Nat.ne_of_lt precedes (tells _ _ same))
  exact apart.count

variable (tells : ∀ first second, view first = view second → first.rule.part = second.rule.part)
  (reported : ∀ before p, seen ∈ (entryIssues before p).map view ↔
    value p = text ∧ text ∈ before.map value)
include tells reported

/-- What is reported of every entry with a value that some entry had before is seen as often as the
value occurs, but for its very first occurrence. -/
theorem count_map_issuesAfter (before rest : List Platform) :
    ((issuesAfter before rest).map view).count seen =
      (rest.map value).count text - if text ∈ before.map value then 0 else 1 := by
  induction rest generalizing before with
  | nil => simp [issuesAfter]
  | cons p rest ih =>
      have here := count_map_entryIssues tells before p seen
      simp only [reported] at here
      rw [issuesAfter, List.map_append, List.count_append, here, ih, List.map_cons,
        List.count_cons]
      by_cases same : value p = text
      · by_cases taken : text ∈ before.map value <;> simp [same, taken, Nat.add_comm]
      · simp [same, Ne.symm same]

theorem count_map_issues (apart : view ⟨none, .noPlatforms⟩ ≠ seen) (catalog : Catalog) :
    (catalog.issues.map view).count seen = (catalog.map value).count text - 1 := by
  by_cases filled : catalog = []
  · simp [filled, issues, apart]
  · rw [issues_of_ne_nil filled, count_map_issuesAfter tells reported]
    simp

end Repetitions

/-- An id is reported as repeated for each of its occurrences but the first. -/
theorem count_repeatedId_issues {id : String} (filled : isBlankText id = false)
    (catalog : Catalog) :
    catalog.issues.count ⟨some id, .repeatedId⟩ = (catalog.map Platform.id).count id - 1 := by
  have reported (before : List Platform) (p : Platform) :
      (⟨some id, .repeatedId⟩ : Issue) ∈ (entryIssues before p).map (fun issue => issue) ↔
        p.id = id ∧ id ∈ before.map Platform.id := by
    rw [List.map_id', mem_entryIssues_iff, List.mem_map]
    constructor
    · rintro ⟨⟩
      next taken => exact ⟨rfl, taken⟩
    · rintro ⟨rfl, taken⟩
      exact .repeatedId filled taken
  have counted := count_map_issues (fun first second same => by rw [same]) reported (by simp)
    catalog
  rwa [List.map_id'] at counted

/-- A constant is reported as repeated for each of its occurrences but the first. -/
theorem count_repeatedConstant_issues {constant : String}
    (identifier : Text.isIdentifier constant.toList = true) (catalog : Catalog) :
    (catalog.issues.map Issue.rule).count (.repeatedConstant constant) =
      (catalog.map Platform.constant).count constant - 1 := by
  have reported (before : List Platform) (p : Platform) :
      Rule.repeatedConstant constant ∈ (entryIssues before p).map Issue.rule ↔
        p.constant = constant ∧ constant ∈ before.map Platform.constant := by
    simp only [List.mem_map, mem_entryIssues_iff]
    constructor
    · rintro ⟨issue, breaks, isRepeated⟩
      cases breaks with
      | repeatedConstant valid taken =>
          cases isRepeated
          exact ⟨rfl, taken⟩
      | _ => cases isRepeated
    · rintro ⟨rfl, taken⟩
      exact ⟨_, .repeatedConstant identifier taken, rfl⟩
  exact count_map_issues (fun first second same => by rw [same]) reported (by simp) catalog

/-! ### Parts of their own -/

@[simp]
theorem filter_entryIssues_id (before : List Platform) (p : Platform) :
    (entryIssues before p).filter (fun issue => issue.rule.part = 1) = idIssues before p := by
  have kept : (idIssues before p).filter (fun issue => issue.rule.part = 1) =
      idIssues before p :=
    List.filter_eq_self.mpr (by grind)
  have dropped : (constantIssues before p ++ familyIssues p ++ extensionIssues p).filter
      (fun issue => issue.rule.part = 1) = [] :=
    List.filter_eq_nil_iff.mpr (by grind)
  simp only [List.filter_append, List.append_eq_nil_iff] at dropped
  simp only [entryIssues, List.filter_append, kept, dropped, List.append_nil]

@[simp]
theorem filter_entryIssues_constant (before : List Platform) (p : Platform) :
    (entryIssues before p).filter (fun issue => issue.rule.part = 2) =
      constantIssues before p := by
  have kept : (constantIssues before p).filter (fun issue => issue.rule.part = 2) =
      constantIssues before p :=
    List.filter_eq_self.mpr (by grind)
  have dropped : (idIssues before p ++ familyIssues p ++ extensionIssues p).filter
      (fun issue => issue.rule.part = 2) = [] :=
    List.filter_eq_nil_iff.mpr (by grind)
  simp only [List.filter_append, List.append_eq_nil_iff] at dropped
  simp only [entryIssues, List.filter_append, kept, dropped, List.append_nil, List.nil_append]

section Parts

variable {α : Type} {part : Nat} {view : Issue → α} {value : Platform → String}
  (only : ∀ before others p q, others.map value = before.map value → value q = value p →
    ((entryIssues others q).filter fun issue => issue.rule.part = part).map view =
      ((entryIssues before p).filter fun issue => issue.rule.part = part).map view)
include only

/-- Where the issues of a part depend on one value of the entries, those of two lists of entries
with the same values are the same. -/
theorem filter_issuesAfter_congr {before others rest further : List Platform}
    (same : others.map value = before.map value) (alsoSame : further.map value = rest.map value) :
    ((issuesAfter others further).filter fun issue => issue.rule.part = part).map view =
      ((issuesAfter before rest).filter fun issue => issue.rule.part = part).map view := by
  induction rest generalizing before others further with
  | nil =>
      obtain rfl := List.map_eq_nil_iff.mp alsoSame
      rfl
  | cons p rest ih =>
      obtain ⟨q, further, rfl, here, later⟩ := List.map_eq_cons_iff.mp alsoSame
      have extended : (others ++ [q]).map value = (before ++ [p]).map value := by
        simp [same, here]
      simp only [issuesAfter, List.filter_append, List.map_append]
      rw [only before others p q same here, ih extended later]

theorem filter_issues_congr {catalog other : Catalog}
    (same : other.map value = catalog.map value) :
    (other.issues.filter fun issue => issue.rule.part = part).map view =
      (catalog.issues.filter fun issue => issue.rule.part = part).map view := by
  by_cases filled : catalog = []
  · subst filled
    obtain rfl := List.map_eq_nil_iff.mp same
    rfl
  · have alsoFilled : other ≠ [] := by
      rintro rfl
      exact filled (List.map_eq_nil_iff.mp same.symm)
    rw [issues_of_ne_nil filled, issues_of_ne_nil alsoFilled]
    exact filter_issuesAfter_congr only rfl same

end Parts

/-- The issues about ids depend on the ids alone. -/
theorem idIssues_congr {catalog other : Catalog}
    (same : other.map Platform.id = catalog.map Platform.id) :
    (other.issues.filter fun issue => issue.rule.part = 1) =
      catalog.issues.filter fun issue => issue.rule.part = 1 := by
  have only (before others : List Platform) (p q : Platform)
      (same : others.map Platform.id = before.map Platform.id) (here : q.id = p.id) :
      ((entryIssues others q).filter fun issue => issue.rule.part = 1).map (fun issue => issue) =
        ((entryIssues before p).filter fun issue => issue.rule.part = 1).map
          fun issue => issue := by
    have shared : (others.any fun r => r.id == p.id) = before.any fun r => r.id == p.id := by
      simpa [List.any_map, Function.comp_def] using congrArg (List.any · (· == p.id)) same
    rw [filter_entryIssues_id, filter_entryIssues_id, idIssues, idIssues, here, shared]
  simpa using filter_issues_congr only same

/-- The rules that constants break depend on the constants alone. -/
theorem constantIssues_congr {catalog other : Catalog}
    (same : other.map Platform.constant = catalog.map Platform.constant) :
    (other.issues.filter fun issue => issue.rule.part = 2).map Issue.rule =
      (catalog.issues.filter fun issue => issue.rule.part = 2).map Issue.rule := by
  refine filter_issues_congr (fun before others p q same here => ?_) same
  have shared : (others.any fun r => r.constant == p.constant) =
      before.any fun r => r.constant == p.constant := by
    simpa [List.any_map, Function.comp_def] using congrArg (List.any · (· == p.constant)) same
  rw [filter_entryIssues_constant, filter_entryIssues_constant, constantIssues, constantIssues,
    here, shared]
  split
  · rfl
  · split <;> rfl

theorem Valid.of_sublist {selected catalog : Catalog} (valid : catalog.Valid)
    (sublist : List.Sublist selected catalog) (filled : selected ≠ []) : selected.Valid where
  filled := filled
  sound := (valid.consistent.of_sublist sublist).sound
  idsApart := (valid.consistent.of_sublist sublist).idsApart
  constantsApart := (valid.consistent.of_sublist sublist).constantsApart

/-- Checking finds no issue exactly in a valid catalog.  It finds that there are no entries, or else
exactly what is wrong with each entry, one issue for each part of it at most and in their order.  A
value is reported as repeated once less than it occurs, the issues about ids do not depend on the
constants nor the other way round, and leaving out entries of a valid catalog keeps it valid as long
as some are left. -/
theorem issues_are_exact (catalog : Catalog) :
    (catalog.issues = [] ↔ catalog.Valid) ∧
      (catalog = [] → catalog.issues = [⟨none, .noPlatforms⟩]) ∧
      (catalog ≠ [] → catalog.Exact catalog.issues) ∧
      (∀ id, isBlankText id = false →
        catalog.issues.count ⟨some id, .repeatedId⟩ = (catalog.map Platform.id).count id - 1) ∧
      (∀ constant, Text.isIdentifier constant.toList = true →
        (catalog.issues.map Issue.rule).count (.repeatedConstant constant) =
          (catalog.map Platform.constant).count constant - 1) ∧
      (∀ other : Catalog, other.map Platform.id = catalog.map Platform.id →
        (other.issues.filter fun issue => issue.rule.part = 1) =
          catalog.issues.filter fun issue => issue.rule.part = 1) ∧
      (∀ other : Catalog, other.map Platform.constant = catalog.map Platform.constant →
        (other.issues.filter fun issue => issue.rule.part = 2).map Issue.rule =
          (catalog.issues.filter fun issue => issue.rule.part = 2).map Issue.rule) ∧
      ∀ selected : Catalog, List.Sublist selected catalog → selected ≠ [] →
        catalog.issues = [] → selected.issues = [] := by
  refine ⟨issues_eq_nil_iff, ?_, exact_issues, fun id filled => count_repeatedId_issues filled _,
    fun constant identifier => count_repeatedConstant_issues identifier _,
    fun other => idIssues_congr, fun other => constantIssues_congr, ?_⟩
  · rintro rfl
    rfl
  · intro selected sublist filled accepted
    rw [issues_eq_nil_iff] at accepted ⊢
    exact accepted.of_sublist sublist filled

/-- Three entries with one id.  The first has a broken constant, and the last has a fault in each of
its parts. -/
def overlapping : Catalog :=
  [⟨"a", "9", .linux, true, "A"⟩,
    ⟨"a", "B", .linux, true, "A"⟩,
    ⟨"a", "B", ⟨" ", "F", "F", ".so"⟩, true, "A"⟩]

theorem issues_overlapping_are_exact :
    overlapping ≠ [] ∧ overlapping.Exact overlapping.issues ∧
      overlapping.issues =
        [⟨some "a", .invalidConstant "9"⟩, ⟨some "a", .repeatedId⟩, ⟨some "a", .repeatedId⟩,
          ⟨some "a", .repeatedConstant "B"⟩, ⟨some "a", .blankFamilyId⟩,
          ⟨some "a", .invalidExtension ".so"⟩] ∧
      isBlankText "a" = false ∧ overlapping.issues.count ⟨some "a", .repeatedId⟩ = 3 - 1 ∧
      Text.isIdentifier "B".toList = true ∧
      (overlapping.issues.map Issue.rule).count (.repeatedConstant "B") = 2 - 1 ∧
      (issues (overlapping.drop 1)).filter (fun issue => issue.rule.part = 1) =
        (issues [⟨"a", "", .linux, true, "A"⟩, ⟨"a", "", .osx, true, "A"⟩]).filter
          (fun issue => issue.rule.part = 1) ∧
      issues [⟨"a", "B", .linux, true, "A"⟩, ⟨"c", "D", .osx, true, "A"⟩] = [] ∧
      issues [⟨"c", "D", .osx, true, "A"⟩] = [] := by
  have filled : overlapping ≠ [] := by decide
  have idFilled : isBlankText "a" = false := by decide
  have identifier : Text.isIdentifier "B".toList = true := by decide
  have sound : issues [⟨"a", "B", .linux, true, "A"⟩, ⟨"c", "D", .osx, true, "A"⟩] = [] := by
    decide
  obtain ⟨-, -, exact, ids, constants, -⟩ := issues_are_exact overlapping
  obtain ⟨-, -, -, -, -, apart, -⟩ :=
    issues_are_exact [⟨"a", "", .linux, true, "A"⟩, ⟨"a", "", .osx, true, "A"⟩]
  obtain ⟨-, -, -, -, -, -, -, shrinks⟩ :=
    issues_are_exact [⟨"a", "B", .linux, true, "A"⟩, ⟨"c", "D", .osx, true, "A"⟩]
  exact ⟨filled, exact filled, by decide, idFilled, ids "a" idFilled, identifier,
    constants "B" identifier, apart _ rfl, sound,
    shrinks _ (List.sublist_cons_self _ _) (List.cons_ne_nil _ _) sound⟩

end Catalog
end BindingGen
