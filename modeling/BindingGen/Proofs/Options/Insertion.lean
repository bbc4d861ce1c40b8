import BindingGen.Options.Table
import Mathlib.Data.List.Induction

/-!
# Inserting options one after another

Options with different names make a table of all of them in their order.  Otherwise the first
option whose name has occurred before is refused, whatever stands behind it.
-/

namespace BindingGen
namespace OptionTable

/-- The names of some options, in their order. -/
def namesOf (options : List BuildOption) : List String :=
  options.map BuildOption.name

/-- The name of the first option that repeats the name of an earlier one. -/
def FirstRepeated (options : List BuildOption) (name : String) : Prop :=
  ∃ before option after, options = before ++ option :: after ∧ option.name = name ∧
    (namesOf before).Nodup ∧ name ∈ namesOf before

@[simp]
theorem namesOf_append (first second : List BuildOption) :
    namesOf (first ++ second) = namesOf first ++ namesOf second :=
  List.map_append

@[simp]
theorem namesOf_cons (option : BuildOption) (rest : List BuildOption) :
    namesOf (option :: rest) = option.name :: namesOf rest :=
  rfl

@[simp]
theorem get?_isSome_iff {table : OptionTable} {name : String} :
    (table.get? name).isSome = true ↔ name ∈ namesOf table.entries := by
  simp [get?, namesOf]

/-- An option with a new name is put behind the others. -/
@[simp]
theorem insert_of_not_mem {table : OptionTable} {option : BuildOption}
    (fresh : option.name ∉ namesOf table.entries) :
    table.insert option = .ok ⟨table.entries ++ [option]⟩ := by
  rw [insert, if_neg (mt get?_isSome_iff.mp fresh)]

@[simp]
theorem insert_of_mem {table : OptionTable} {option : BuildOption}
    (known : option.name ∈ namesOf table.entries) :
    table.insert option = .error (.repeatedOption option.name) := by
  rw [insert, if_pos (get?_isSome_iff.mpr known)]

/-! ## Several options -/

/-- Options with new and different names are all put behind those of a table. -/
theorem insertAll_of_nodup {entries options : List BuildOption}
    (apart : (namesOf (entries ++ options)).Nodup) :
    (⟨entries⟩ : OptionTable).insertAll options = .ok ⟨entries ++ options⟩ := by
  induction options generalizing entries with
  | nil => rw [insertAll, List.append_nil]
  | cons option rest ih =>
      have regrouped : entries ++ option :: rest = entries ++ [option] ++ rest := by simp
      rw [regrouped] at apart ⊢
      have fresh : option.name ∉ namesOf entries := by
        intro known
        have joined := (List.nodup_append.mp (namesOf_append _ rest ▸ apart)).1
        rw [namesOf_append] at joined
        exact (List.nodup_append.mp joined).2.2 _ known _ List.mem_cons_self rfl
      rw [insertAll, insert_of_not_mem fresh]
      exact ih apart

theorem insertAll_append (table : OptionTable) (first second : List BuildOption) :
    table.insertAll (first ++ second) =
      match table.insertAll first with
      | .error fault => .error fault
      | .ok next => next.insertAll second := by
  induction first generalizing table with
  | nil => rfl
  | cons option rest ih =>
      rw [List.cons_append, insertAll, insertAll]
      cases table.insert option with
      | error fault => rfl
      | ok next => exact ih next

theorem ofOptions_of_nodup {options : List BuildOption} (apart : (namesOf options).Nodup) :
    ofOptions options = .ok ⟨options⟩ :=
  insertAll_of_nodup apart

theorem ofOptions_of_firstRepeated {options : List BuildOption} {name : String}
    (repeated : FirstRepeated options name) :
    ofOptions options = .error (.repeatedOption name) := by
  obtain ⟨before, option, after, rfl, rfl, apart, known⟩ := repeated
  have inserted : empty.insertAll before = .ok ⟨before⟩ := insertAll_of_nodup apart
  have refused : (⟨before⟩ : OptionTable).insert option = .error (.repeatedOption option.name) :=
    insert_of_mem known
  rw [ofOptions, insertAll_append, inserted]
  simp only [insertAll, refused]

/-- Names are different or there is a first one that repeats another. -/
theorem nodup_or_exists_firstRepeated (options : List BuildOption) :
    (namesOf options).Nodup ∨ ∃ name, FirstRepeated options name := by
  induction options using List.reverseRecOn with
  | nil => exact .inl List.nodup_nil
  | append_singleton options option ih =>
      rcases ih with apart | ⟨name, before, other, after, rfl, repeated⟩
      · by_cases known : option.name ∈ namesOf options
        · exact .inr ⟨option.name, options, option, [], rfl, rfl, apart, known⟩
        · left
          rw [namesOf_append]
          apply List.nodup_append.mpr
          refine ⟨apart, by simp [namesOf], ?_⟩
          rintro other member _ isLast rfl
          rw [List.mem_singleton.mp isLast] at member
          exact known member
      · right
        exact ⟨name, before, other, after ++ [option], by simp, repeated⟩

theorem ofOptions_eq_ok_iff {options : List BuildOption} {table : OptionTable} :
    ofOptions options = .ok table ↔ (namesOf options).Nodup ∧ table.entries = options := by
  constructor
  · intro isTable
    rcases nodup_or_exists_firstRepeated options with apart | ⟨name, repeated⟩
    · rw [ofOptions_of_nodup apart] at isTable
      cases isTable
      exact ⟨apart, rfl⟩
    · rw [ofOptions_of_firstRepeated repeated] at isTable
      cases isTable
  · rintro ⟨apart, rfl⟩
    exact ofOptions_of_nodup apart

theorem ofOptions_eq_error_iff {options : List BuildOption} {fault : Fault} :
    ofOptions options = .error fault ↔
      ∃ name, FirstRepeated options name ∧ fault = .repeatedOption name := by
  constructor
  · intro refused
    rcases nodup_or_exists_firstRepeated options with apart | ⟨name, repeated⟩
    · rw [ofOptions_of_nodup apart] at refused
      cases refused
    · rw [ofOptions_of_firstRepeated repeated] at refused
      cases refused
      exact ⟨name, repeated, rfl⟩
  · rintro ⟨name, repeated, rfl⟩
    exact ofOptions_of_firstRepeated repeated

/-- With different names the value of an option is that of the only entry with its name. -/
theorem get?_eq_some_iff {entries : List BuildOption} (apart : (namesOf entries).Nodup)
    {name : String} {value : Int32} :
    (⟨entries⟩ : OptionTable).get? name = some value ↔ ⟨name, value⟩ ∈ entries := by
  induction entries with
  | nil => simp [get?]
  | cons option rest ih =>
      obtain ⟨fresh, restApart⟩ := List.nodup_cons.mp apart
      have further := ih restApart
      rw [get?] at further ⊢
      by_cases same : option.name = name
      · subst same
        have notLater : ∀ value, (⟨option.name, value⟩ : BuildOption) ∉ rest :=
          fun _ member => fresh (List.mem_map.mpr ⟨_, member, rfl⟩)
        obtain ⟨name, first⟩ := option
        simp [notLater, eq_comm]
      · have notFirst : (⟨name, value⟩ : BuildOption) ≠ option := by
          rintro rfl
          exact same rfl
        rw [List.find?_cons_of_neg (by simpa using same), further]
        simp [notFirst]

end OptionTable
end BindingGen
