import BindingGen.Options.LibraryBuild
import BindingGen.Proofs.Options.Insertion
import Mathlib.Data.List.Find

/-!
# The build that a table of options describes

A build looks up nine options in a fixed order, fails at the first that the table lacks, and
otherwise holds what their values say.  It reads nothing else of the table, so neither the order
of the options nor any further option makes a difference.
-/

namespace BindingGen
namespace LibraryBuild

open OptionTable

/-- What a build holds for an option. -/
inductive Setting where
  | flag (isSet : Bool)
  | size (value : Int32)
  deriving DecidableEq, Repr

/-- A flag is set by the value one and by no other; a size is the value itself. -/
def Setting.Reflects : Setting → Int32 → Prop
  | .flag isSet, value => isSet = true ↔ value = 1
  | .size given, value => given = value

/-- The settings of a build with the names of their options, in the order of the look-ups. -/
def settings (build : LibraryBuild) : List (String × Setting) :=
  [("BR_64", .flag build.is64Bit), ("BR_AES_X86NI", .flag build.aesX86ni),
    ("BR_BE_UNALIGNED", .flag build.beUnaligned), ("BR_INT128", .flag build.int128),
    ("BR_LE_UNALIGNED", .flag build.leUnaligned), ("BR_MAX_EC_SIZE", .size build.maxEcSize),
    ("BR_MAX_RSA_SIZE", .size build.maxRsaSize), ("BR_MAX_RSA_FACTOR", .size build.maxRsaFactor),
    ("BR_SSE2", .flag build.sse2)]

/-- The options that a build needs, in the order of the look-ups. -/
def optionNames : List String :=
  ["BR_64", "BR_AES_X86NI", "BR_BE_UNALIGNED", "BR_INT128", "BR_LE_UNALIGNED", "BR_MAX_EC_SIZE",
    "BR_MAX_RSA_SIZE", "BR_MAX_RSA_FACTOR", "BR_SSE2"]

/-- The first of some names that no option has. -/
def FirstAbsent (names : List String) (options : List BuildOption) (name : String) : Prop :=
  ∃ before after, names = before ++ name :: after ∧
    (∀ earlier ∈ before, earlier ∈ namesOf options) ∧ name ∉ namesOf options

/-- The build of given values. -/
def ofValues (value : String → Int32) : LibraryBuild where
  is64Bit := value "BR_64" == 1
  aesX86ni := value "BR_AES_X86NI" == 1
  beUnaligned := value "BR_BE_UNALIGNED" == 1
  int128 := value "BR_INT128" == 1
  leUnaligned := value "BR_LE_UNALIGNED" == 1
  maxEcSize := value "BR_MAX_EC_SIZE"
  maxRsaSize := value "BR_MAX_RSA_SIZE"
  maxRsaFactor := value "BR_MAX_RSA_FACTOR"
  sse2 := value "BR_SSE2" == 1

@[simp]
theorem map_fst_settings (build : LibraryBuild) : build.settings.map Prod.fst = optionNames :=
  rfl

/-- A build is that of some values when each of its settings says what the value says. -/
theorem eq_ofValues_iff {build : LibraryBuild} {value : String → Int32} :
    build = ofValues value ↔
      ∀ setting ∈ build.settings, setting.2.Reflects (value setting.1) := by
  have agree (isSet : Bool) (given : Int32) :
      (isSet = true ↔ given = 1) ↔ isSet = (given == 1) := by
    cases isSet <;> simp
  obtain ⟨⟩ := build
  simp [settings, Setting.Reflects, ofValues, agree]

theorem ofValues_congr {value other : String → Int32}
    (same : ∀ name ∈ optionNames, value name = other name) : ofValues value = ofValues other := by
  rw [eq_ofValues_iff]
  intro setting member
  have named : setting.1 ∈ optionNames := List.mem_map_of_mem member
  rw [← same _ named]
  exact eq_ofValues_iff.mp rfl setting member

/-! ## Looking up one option after another -/

section LookUp

variable {table : OptionTable} {name : String} {names : List String} {build : LibraryBuild}

/-- Fails at the first of some options that the table lacks, and gives a build otherwise. -/
def needing (table : OptionTable) (names : List String) (build : LibraryBuild) :
    Except Fault LibraryBuild :=
  match names.find? fun name => (table.get? name).isNone with
  | some name => .error (.missingOption name)
  | none => .ok build

/-- The value of an option, for tables that have it. -/
def valueOf (table : OptionTable) (name : String) : Int32 :=
  (table.get? name).getD 0

theorem require_bind {next : Int32 → Except Fault LibraryBuild}
    (further : next (valueOf table name) = needing table names build) :
    (table.require name >>= next) = needing table (name :: names) build := by
  rw [valueOf] at further
  rw [require, needing, List.find?_cons]
  cases found : table.get? name with
  | none => rfl
  | some value =>
      rw [found] at further
      exact further

theorem flag_bind {next : Bool → Except Fault LibraryBuild}
    (further : next (valueOf table name == 1) = needing table names build) :
    (flag table name >>= next) = needing table (name :: names) build := by
  have asValue : (flag table name >>= next) =
      (table.require name >>= fun value => next (value == 1)) := by
    rw [flag]
    cases table.require name <;> rfl
  rw [asValue]
  exact require_bind further

/-- A build needs its options from the first to the last and holds what their values say. -/
theorem ofTable_eq (table : OptionTable) :
    ofTable table = needing table optionNames (ofValues (valueOf table)) := by
  unfold ofTable optionNames
  -- One step for each look-up; what is left is the build of the values that were found.
  apply flag_bind
  apply flag_bind
  apply flag_bind
  apply flag_bind
  apply flag_bind
  apply require_bind
  apply require_bind
  apply require_bind
  apply flag_bind
  rfl

theorem isNone_get?_iff : (table.get? name).isNone = true ↔ name ∉ namesOf table.entries := by
  rw [← get?_isSome_iff]
  cases table.get? name <;> simp

theorem find?_isNone_get?_eq_some_iff :
    (names.find? fun name => (table.get? name).isNone) = some name ↔
      FirstAbsent names table.entries name := by
  have isFound : ∀ earlier, (!(table.get? earlier).isNone) = true ↔
      earlier ∈ namesOf table.entries := by
    intro earlier
    rw [Bool.not_eq_true', ← Bool.not_eq_true, isNone_get?_iff, not_not]
  simp only [List.find?_eq_some_iff_append, isNone_get?_iff, isFound, FirstAbsent]
  grind

theorem needing_eq_error_iff {fault : Fault} :
    needing table names build = .error fault ↔
      ∃ name, FirstAbsent names table.entries name ∧ fault = .missingOption name := by
  unfold needing
  simp only [← find?_isNone_get?_eq_some_iff]
  cases names.find? fun name => (table.get? name).isNone <;> simp [eq_comm]

theorem needing_eq_ok_iff {other : LibraryBuild} :
    needing table names build = .ok other ↔
      (∀ name ∈ names, name ∈ namesOf table.entries) ∧ other = build := by
  have allFound : (names.find? fun name => (table.get? name).isNone) = none ↔
      ∀ name ∈ names, name ∈ namesOf table.entries := by
    simp only [List.find?_eq_none, isNone_get?_iff, not_not]
  unfold needing
  rw [← allFound]
  cases names.find? fun name => (table.get? name).isNone <;> simp [eq_comm]

end LookUp

theorem exists_firstAbsent_iff {names : List String} {options : List BuildOption} :
    (∃ name, FirstAbsent names options name) ↔ ∃ name ∈ names, name ∉ namesOf options := by
  constructor
  · rintro ⟨name, before, after, rfl, -, absent⟩
    exact ⟨name, by simp, absent⟩
  · rintro ⟨name, member, absent⟩
    let table : OptionTable := ⟨options⟩
    have someAbsent : (names.find? fun name => (table.get? name).isNone).isSome = true :=
      List.find?_isSome.mpr ⟨name, member, isNone_get?_iff.mpr absent⟩
    obtain ⟨first, searched⟩ := Option.isSome_iff_exists.mp someAbsent
    exact ⟨first, find?_isNone_get?_eq_some_iff.mp searched⟩

/-! ## Builds of tables -/

theorem ofTable_eq_error_iff {table : OptionTable} {fault : Fault} :
    ofTable table = .error fault ↔
      ∃ name, FirstAbsent optionNames table.entries name ∧ fault = .missingOption name := by
  rw [ofTable_eq, needing_eq_error_iff]

theorem ofTable_eq_ok_iff {table : OptionTable} {build : LibraryBuild} :
    ofTable table = .ok build ↔
      ∀ setting ∈ build.settings, ∃ value,
        table.get? setting.1 = some value ∧ setting.2.Reflects value := by
  have valueOf_eq {name : String} {value : Int32} (found : table.get? name = some value) :
      valueOf table name = value := by
    rw [valueOf, found]
    rfl
  rw [ofTable_eq, needing_eq_ok_iff, eq_ofValues_iff]
  constructor
  · rintro ⟨present, reflects⟩ setting member
    have named : setting.1 ∈ optionNames := List.mem_map_of_mem member
    obtain ⟨value, found⟩ := Option.isSome_iff_exists.mp (get?_isSome_iff.mpr (present _ named))
    exact ⟨value, found, valueOf_eq found ▸ reflects setting member⟩
  · intro reflects
    constructor
    · intro name named
      rw [← map_fst_settings build] at named
      obtain ⟨setting, member, rfl⟩ := List.mem_map.mp named
      obtain ⟨value, found, -⟩ := reflects setting member
      exact get?_isSome_iff.mp (Option.isSome_iff_exists.mpr ⟨value, found⟩)
    · intro setting member
      obtain ⟨value, found, reflected⟩ := reflects setting member
      exact valueOf_eq found ▸ reflected

/-- Tables with the same values of the nine options give the same build or the same fault. -/
theorem ofTable_congr {table other : OptionTable}
    (same : ∀ name ∈ optionNames, table.get? name = other.get? name) :
    ofTable table = ofTable other := by
  have sameValues : ofValues (valueOf table) = ofValues (valueOf other) := by
    apply ofValues_congr
    intro name named
    rw [valueOf, valueOf, same name named]
  have sameSearch : (optionNames.find? fun name => (table.get? name).isNone) =
      optionNames.find? fun name => (other.get? name).isNone := by
    apply List.find?_congr
    intro name named
    rw [same name named]
  rw [ofTable_eq, ofTable_eq, needing, needing, sameValues, sameSearch]

/-- Neither the order of options nor further ones change the value of an option. -/
theorem get?_of_perm {options extra mixed : List BuildOption}
    (perm : mixed.Perm (options ++ extra)) (apart : (namesOf (options ++ extra)).Nodup)
    {name : String} (unrelated : name ∉ namesOf extra) :
    (⟨mixed⟩ : OptionTable).get? name = (⟨options⟩ : OptionTable).get? name := by
  have mixedApart : (namesOf mixed).Nodup := (perm.map BuildOption.name).nodup_iff.mpr apart
  have optionsApart : (namesOf options).Nodup := by
    rw [namesOf_append] at apart
    exact (List.nodup_append.mp apart).1
  ext value
  have notExtra : (⟨name, value⟩ : BuildOption) ∉ extra := by
    intro member
    exact unrelated (List.mem_map.mpr ⟨_, member, rfl⟩)
  rw [get?_eq_some_iff mixedApart, get?_eq_some_iff optionsApart, perm.mem_iff, List.mem_append,
    or_iff_left notExtra]

/-- Options make a table exactly when their names are different, and the first repeated name is
reported otherwise.  A table lists its options in their order, finds the value of each, and is the
table of what it lists.  The build of a table depends on the values of nine options alone, so it
is the same, or fails in the same way, for the options in any order and together with further
unrelated ones.  It fails exactly when one of the nine is absent, naming the first absent one; each
of its flags tells whether the value of its option is one, and each size is the value of its
option. -/
theorem builds_read_nine_options (options : List BuildOption) :
    ((∃ table, ofOptions options = .ok table) ↔ (namesOf options).Nodup) ∧
    (∀ fault, ofOptions options = .error fault ↔
      ∃ name, FirstRepeated options name ∧ fault = .repeatedOption name) ∧
    ∀ table, ofOptions options = .ok table →
      table.entries = options ∧
      (∀ name value, table.get? name = some value ↔ ⟨name, value⟩ ∈ options) ∧
      ofOptions table.entries = .ok table ∧
      (∀ other : OptionTable, (∀ name ∈ optionNames, table.get? name = other.get? name) →
        ofTable table = ofTable other) ∧
      (∀ extra mixed, mixed.Perm (options ++ extra) → (namesOf (options ++ extra)).Nodup →
        (∀ name ∈ optionNames, name ∉ namesOf extra) →
          ∃ other, ofOptions mixed = .ok other ∧ ofTable other = ofTable table) ∧
      ((∃ fault, ofTable table = .error fault) ↔ ∃ name ∈ optionNames, name ∉ namesOf options) ∧
      (∀ fault, ofTable table = .error fault ↔
        ∃ name, FirstAbsent optionNames options name ∧ fault = .missingOption name) ∧
      ∀ build, ofTable table = .ok build ↔
        ∀ setting ∈ build.settings, ∃ value,
          ⟨setting.1, value⟩ ∈ options ∧ setting.2.Reflects value := by
  refine ⟨?_, fun fault => ofOptions_eq_error_iff, ?_⟩
  · simp only [ofOptions_eq_ok_iff]
    exact ⟨fun ⟨_, apart, _⟩ => apart, fun apart => ⟨⟨options⟩, apart, rfl⟩⟩
  · intro table isTable
    obtain ⟨apart, rfl⟩ := ofOptions_eq_ok_iff.mp isTable
    have contents : ∀ name value, table.get? name = some value ↔ ⟨name, value⟩ ∈ table.entries :=
      fun name value => get?_eq_some_iff apart
    refine ⟨rfl, contents, isTable, fun other => ofTable_congr, ?_, ?_,
      fun fault => ofTable_eq_error_iff, ?_⟩
    · intro extra mixed perm allApart unrelated
      have mixedApart : (namesOf mixed).Nodup := (perm.map BuildOption.name).nodup_iff.mpr allApart
      refine ⟨⟨mixed⟩, ofOptions_of_nodup mixedApart, ?_⟩
      apply ofTable_congr
      intro name named
      exact get?_of_perm perm allApart (unrelated name named)
    · rw [← exists_firstAbsent_iff]
      simp only [ofTable_eq_error_iff]
      constructor
      · rintro ⟨fault, name, absent, -⟩
        exact ⟨name, absent⟩
      · rintro ⟨name, absent⟩
        exact ⟨_, name, absent, rfl⟩
    · intro build
      rw [ofTable_eq_ok_iff]
      simp only [contents]

/-- The nine options in no particular order; the values of two flags are neither zero nor one. -/
def plainOptions : List BuildOption :=
  [⟨"BR_SSE2", 0⟩, ⟨"BR_MAX_RSA_FACTOR", 2080⟩, ⟨"BR_MAX_RSA_SIZE", 4096⟩, ⟨"BR_MAX_EC_SIZE", 521⟩,
    ⟨"BR_LE_UNALIGNED", 2⟩, ⟨"BR_INT128", 1⟩, ⟨"BR_BE_UNALIGNED", -1⟩, ⟨"BR_AES_X86NI", 0⟩,
    ⟨"BR_64", 1⟩]

/-- With an unrelated option in front and in the opposite order the build is the same.  Without
the last two options the first one that is missed is reported. -/
theorem builds_of_plainOptions_read_nine_options :
    ofOptions plainOptions = .ok ⟨plainOptions⟩ ∧
      ofTable ⟨plainOptions⟩ = .ok ⟨true, false, false, true, false, 521, 4096, 2080, false⟩ ∧
      (∃ other, ofOptions (⟨"BR_RDRAND", 1⟩ :: plainOptions.reverse) = .ok other ∧
        ofTable other = ofTable ⟨plainOptions⟩) ∧
      ofOptions (plainOptions.take 7) = .ok ⟨plainOptions.take 7⟩ ∧
      ofTable ⟨plainOptions.take 7⟩ = .error (.missingOption "BR_64") := by
  have isTable : ofOptions plainOptions = .ok ⟨plainOptions⟩ := ofOptions_of_nodup (by decide)
  have isTableToo : ofOptions (plainOptions.take 7) = .ok ⟨plainOptions.take 7⟩ :=
    ofOptions_of_nodup (by decide)
  obtain ⟨-, -, -, -, mixes, -, -, builds⟩ :=
    (builds_read_nine_options plainOptions).2.2 _ isTable
  obtain ⟨-, -, -, -, -, -, misses, -⟩ :=
    (builds_read_nine_options (plainOptions.take 7)).2.2 _ isTableToo
  have perm : (⟨"BR_RDRAND", 1⟩ :: plainOptions.reverse).Perm
      (plainOptions ++ [⟨"BR_RDRAND", 1⟩]) := by
    decide
  refine ⟨isTable, (builds _).mpr ?_, mixes _ _ perm (by decide) (by decide), isTableToo,
    (misses _).mpr ⟨"BR_64", ⟨[], _, rfl, by simp, by decide⟩, rfl⟩⟩
  simp [settings, plainOptions, Setting.Reflects]

end LibraryBuild
end BindingGen
