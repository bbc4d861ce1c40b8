import BindingGen.Proofs.Platform.Selection

/-!
# Requests for platforms

A request is a list of ids.  Its answer is the part of the catalog that has these ids: every such
entry, in the order of the catalog and as often as it occurs there.  Only the set of requested ids
matters for the answer, so a request can be repeated, and a smaller one can be put to the answer
instead of the catalog.  A request that cannot be answered names its first unknown id.
-/

namespace BindingGen
namespace Catalog

variable {catalog selected : Catalog} {ids : List String}

/-- Every requested id is the id of an entry. -/
def Offers (catalog : Catalog) (ids : List String) : Prop :=
  ∀ id ∈ ids, ∃ p ∈ catalog, p.id = id

/-- The first requested id that is not the id of an entry. -/
def FirstUnknown (catalog : Catalog) (ids : List String) (id : String) : Prop :=
  ∃ before after, ids = before ++ id :: after ∧ catalog.Offers before ∧ ∀ p ∈ catalog, p.id ≠ id

/-- Some entries are those of a catalog with requested ids, in their order and all of them. -/
structure Answers (catalog : Catalog) (ids : List String) (selected : Catalog) : Prop where
  inOrder : List.Sublist selected catalog
  complete : ∀ p, selected.count p = if p.id ∈ ids then catalog.count p else 0

/-! ## Answers -/

theorem answers_filter (catalog : Catalog) (ids : List String) :
    catalog.Answers ids (catalog.filter fun p => ids.contains p.id) where
  inOrder := List.filter_sublist
  complete p := by
    by_cases requested : p.id ∈ ids
    · rw [if_pos requested, List.count_filter (by simpa using requested)]
    · rw [if_neg requested, List.count_eq_zero]
      intro member
      exact requested (by simpa using (List.mem_filter.mp member).2)

/-- Two answers have the same entries equally often, and both stand in the order of the
catalog. -/
theorem Answers.unique {first second : Catalog} (answers : catalog.Answers ids first)
    (alsoAnswers : catalog.Answers ids second) : first = second := by
  have kept : ∀ {other : Catalog}, catalog.Answers ids other →
      other = catalog.filter fun p => ids.contains p.id := by
    intro other answers
    have requested : ∀ p ∈ other, ids.contains p.id = true := by
      intro p member
      have occurs := List.count_pos_iff.mpr member
      rw [answers.complete] at occurs
      split at occurs
      next inRequest => simpa using inRequest
      next => exact absurd occurs (Nat.lt_irrefl 0)
    have within := answers.inOrder.filter fun p => ids.contains p.id
    rw [List.filter_eq_self.mpr requested] at within
    have asOften : List.Perm other (catalog.filter fun p => ids.contains p.id) := by
      apply List.perm_iff_count.mpr
      intro p
      rw [answers.complete, (answers_filter catalog ids).complete]
    exact within.eq_of_length asOften.length_eq
  rw [kept answers, kept alsoAnswers]

theorem answers_iff : catalog.Answers ids selected ↔
    selected = catalog.filter fun p => ids.contains p.id :=
  ⟨fun answers => answers.unique (answers_filter catalog ids),
    fun same => same ▸ answers_filter catalog ids⟩

theorem select_eq_ok_iff_answers :
    catalog.select ids = .ok selected ↔ catalog.Offers ids ∧ catalog.Answers ids selected := by
  rw [select_eq_ok_iff, answers_iff]
  rfl

/-- The entries of an answer are those with requested ids. -/
theorem Answers.mem_iff (answers : catalog.Answers ids selected) {p : Platform} :
    p ∈ selected ↔ p ∈ catalog ∧ p.id ∈ ids := by
  rw [answers_iff.mp answers, List.mem_filter, List.contains_iff_mem]

theorem select_eq_error_iff {unknown : UnknownPlatform} :
    catalog.select ids = .error unknown ↔ catalog.FirstUnknown ids unknown.id := by
  have first : ∀ id, (ids.find? fun id => (catalog.find? id).isNone) = some id ↔
      catalog.FirstUnknown ids id := by
    intro id
    have known : ∀ {other : String},
        (!(catalog.find? other).isNone) = true ↔ ∃ p ∈ catalog, p.id = other := by
      intro other
      rw [Bool.not_eq_true', ← Bool.not_eq_true, find?_isNone_iff]
      simp
    simp only [List.find?_eq_some_iff_append, find?_isNone_iff, known]
    constructor
    · rintro ⟨missing, before, after, cut, offers⟩
      exact ⟨before, after, cut, offers, missing⟩
    · rintro ⟨before, after, cut, offers, missing⟩
      exact ⟨missing, before, after, cut, offers⟩
  rw [← first, select]
  cases ids.find? fun id => (catalog.find? id).isNone with
  | none => simp
  | some id =>
      constructor
      · rintro ⟨⟩
        rfl
      · rintro ⟨⟩
        rfl

/-! ## Requests for the same ids, and for fewer -/

theorem select_of_same_ids {others : List String} (same : ∀ id, id ∈ others ↔ id ∈ ids)
    (picked : catalog.select ids = .ok selected) : catalog.select others = .ok selected := by
  obtain ⟨offers, answers⟩ := select_eq_ok_iff_answers.mp picked
  apply select_eq_ok_iff_answers.mpr
  refine ⟨fun id requested => offers id ((same id).mp requested), answers.inOrder, ?_⟩
  intro p
  simp only [answers.complete, same p.id]

/-- Where fewer ids are requested, an answer to the larger request stands for the catalog. -/
theorem Answers.narrow {fewer : List String} {smaller : Catalog}
    (answers : catalog.Answers ids selected) (subset : ∀ id ∈ fewer, id ∈ ids) :
    selected.Answers fewer smaller ↔ catalog.Answers fewer smaller := by
  rw [answers_iff, answers_iff, answers_iff.mp answers, List.filter_filter]
  have onlyFewer : (fun p : Platform => fewer.contains p.id && ids.contains p.id) =
      fun p => fewer.contains p.id := by
    funext p
    by_cases requested : p.id ∈ fewer
    · simp [requested, subset p.id requested]
    · simp [requested]
  rw [onlyFewer]

theorem select_of_select {fewer : List String} (subset : ∀ id ∈ fewer, id ∈ ids)
    (picked : catalog.select ids = .ok selected) :
    ∃ smaller, selected.select fewer = .ok smaller ∧ catalog.select fewer = .ok smaller := by
  obtain ⟨offers, answers⟩ := select_eq_ok_iff_answers.mp picked
  have offersFewer : catalog.Offers fewer := fun id requested => offers id (subset id requested)
  have stillOffers : selected.Offers fewer := by
    intro id requested
    obtain ⟨p, member, rfl⟩ := offersFewer id requested
    exact ⟨p, answers.mem_iff.mpr ⟨member, subset p.id requested⟩, rfl⟩
  have smaller := answers_filter catalog fewer
  exact ⟨_, select_eq_ok_iff_answers.mpr ⟨stillOffers, (answers.narrow subset).mpr smaller⟩,
    select_eq_ok_iff_answers.mpr ⟨offersFewer, smaller⟩⟩

/-- The first entry with a requested id is the first one in the answer as well. -/
theorem Answers.find?_eq {id : String} (answers : catalog.Answers ids selected)
    (requested : id ∈ ids) : selected.find? id = catalog.find? id := by
  rw [answers_iff.mp answers, find?, List.find?_filter, find?]
  congr 1
  funext p
  by_cases same : p.id = id
  · simp [same, requested]
  · simp [same]

theorem find_of_select {id : String} (requested : id ∈ ids)
    (picked : catalog.select ids = .ok selected) :
    ∃ p, p.id = id ∧ catalog.find id = .ok p ∧ selected.find id = .ok p := by
  obtain ⟨offers, answers⟩ := select_eq_ok_iff_answers.mp picked
  cases found : catalog.find? id with
  | none =>
      obtain ⟨p, member, same⟩ := offers id requested
      exact absurd same (find?_isNone_iff.mp (by rw [found]; rfl) p member)
  | some p =>
      have same : p.id = id := by simpa using List.find?_some found
      refine ⟨p, same, ?_, ?_⟩
      · rw [find, found]
      · rw [find, answers.find?_eq requested, found]

/-! ## The laws of selection -/

/-- A selection succeeds exactly when every requested id is the id of an entry, and otherwise names
the first that is not.  Its result is the only answer to the request.  It depends on the set of
requested ids alone; the same request to the result changes nothing, and a smaller one has the same
result there as in the catalog.  A requested id leads to the same entry in both. -/
theorem selections_answer_requests (catalog : Catalog) (ids : List String) :
    ((∃ selected, catalog.select ids = .ok selected) ↔ catalog.Offers ids) ∧
      (∀ unknown, catalog.select ids = .error unknown ↔ catalog.FirstUnknown ids unknown.id) ∧
      ∀ selected, catalog.select ids = .ok selected →
        (∀ other, catalog.Answers ids other ↔ other = selected) ∧
        (∀ others, (∀ id, id ∈ others ↔ id ∈ ids) → catalog.select others = .ok selected) ∧
        selected.select ids = .ok selected ∧
        (∀ fewer, (∀ id ∈ fewer, id ∈ ids) →
          ∃ smaller, selected.select fewer = .ok smaller ∧ catalog.select fewer = .ok smaller) ∧
        ∀ id ∈ ids, ∃ p, p.id = id ∧ catalog.find id = .ok p ∧ selected.find id = .ok p := by
  refine ⟨?_, fun unknown => select_eq_error_iff, ?_⟩
  · constructor
    · rintro ⟨selected, picked⟩
      exact (select_eq_ok_iff_answers.mp picked).1
    · intro offers
      exact ⟨_, select_eq_ok_iff_answers.mpr ⟨offers, answers_filter catalog ids⟩⟩
  · intro selected picked
    have answers := (select_eq_ok_iff_answers.mp picked).2
    refine ⟨?_, ?_, ?_, ?_, ?_⟩
    · intro other
      constructor
      · exact fun alsoAnswers => alsoAnswers.unique answers
      · rintro rfl
        exact answers
    · exact fun others same => select_of_same_ids same picked
    · obtain ⟨again, fromSelected, fromCatalog⟩ :=
        select_of_select (fun _ requested => requested) picked
      rw [fromSelected, ← fromCatalog, picked]
    · exact fun fewer subset => select_of_select subset picked
    · exact fun id requested => find_of_select requested picked

/-- Two entries of one id around one of another. -/
def twice : Catalog :=
  [⟨"a", "A", .linux, true, "First"⟩, ⟨"b", "B", .osx, true, "Middle"⟩,
    ⟨"a", "C", .windows, false, "Last"⟩]

/-- Both entries are selected, whichever way their id is requested, and the first of them is found;
an id that does not occur is named even when known ones stand around it. -/
theorem selections_of_twice_answer_requests :
    twice.select ["b", "a"] = .ok twice ∧
      (∀ id, id ∈ ["a", "b", "a"] ↔ id ∈ ["b", "a"]) ∧
      twice.select ["a", "b", "a"] = .ok twice ∧
      (∃ smaller, twice.select ["a"] = .ok smaller ∧ smaller.length = 2) ∧
      (∃ p, p.className = "First" ∧ twice.find "a" = .ok p) ∧
      twice.FirstUnknown ["a", "c", "b", "d"] "c" := by
  have picked : twice.select ["b", "a"] = .ok twice := rfl
  have sameIds : ∀ id, id ∈ ["a", "b", "a"] ↔ id ∈ ["b", "a"] := by
    intro id
    simp only [List.mem_cons, List.not_mem_nil, or_false]
    grind
  obtain ⟨-, -, laws⟩ := selections_answer_requests twice ["b", "a"]
  obtain ⟨-, reordered, -, narrowed, found⟩ := laws twice picked
  obtain ⟨smaller, fromSelected, -⟩ := narrowed ["a"] (by simp)
  obtain ⟨p, -, first, -⟩ := found "a" (by simp)
  obtain ⟨-, unknown, -⟩ := selections_answer_requests twice ["a", "c", "b", "d"]
  refine ⟨picked, sameIds, reordered _ sameIds, ⟨smaller, fromSelected, ?_⟩, ⟨p, ?_, first⟩,
    (unknown ⟨"c"⟩).mp rfl⟩
  · cases fromSelected
    rfl
  · cases first
    rfl

end Catalog
end BindingGen
