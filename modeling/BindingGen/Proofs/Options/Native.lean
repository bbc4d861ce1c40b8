import BindingGen.Proofs.Options.Insertion
import Mathlib.Data.List.Forall2
import Mathlib.Data.List.TakeWhile

/-!
# Tables of native arrays

A native array is read entry by entry until one has no name.  As long as the bytes of the names
spell texts, reading an entry is inserting an option; the first name that spells none ends the
reading, unless a repeated name has ended it before.
-/

namespace BindingGen

/-- A native entry with a name. -/
def NativeOption.named (entry : ByteArray × Int32) : NativeOption :=
  ⟨some entry.1, entry.2⟩

namespace OptionTable

/-- The bytes are those of a text, up to their first zero or to their end. -/
def Spells (bytes : ByteArray) (name : String) : Prop :=
  0 ∉ name.toUTF8.data.toList ∧
    (bytes.data.toList = name.toUTF8.data.toList ∨
      ∃ rest, bytes.data.toList = name.toUTF8.data.toList ++ 0 :: rest)

/-- A named entry stands for an option. -/
def StandsFor (entry : ByteArray × Int32) (option : BuildOption) : Prop :=
  Spells entry.1 option.name ∧ entry.2 = option.value

/-- The first name that spells no text stands behind entries that stand for some options. -/
def BreaksBehind (named : List (ByteArray × Int32)) (options : List BuildOption) : Prop :=
  ∃ before broken rest, named = before ++ broken :: rest ∧
    List.Forall₂ StandsFor before options ∧ ∀ name, ¬ Spells broken.1 name

/-! ## Names -/

theorem fromUTF8?_eq_some_iff {bytes : ByteArray} {text : String} :
    String.fromUTF8? bytes = some text ↔ bytes = text.toUTF8 := by
  constructor
  · intro decoded
    unfold String.fromUTF8? at decoded
    split at decoded
    · cases decoded
      rfl
    · cases decoded
  · rintro rfl
    exact dif_pos text.isValidUTF8

theorem takeWhile_ne_zero_eq_iff {bytes text : List UInt8} :
    bytes.takeWhile (· != 0) = text ↔
      0 ∉ text ∧ (bytes = text ∨ ∃ rest, bytes = text ++ 0 :: rest) := by
  constructor
  · rintro rfl
    have filled : 0 ∉ bytes.takeWhile (· != 0) := by
      intro member
      simpa using List.mem_takeWhile_imp member
    have cut := List.takeWhile_append_dropWhile (p := (· != 0)) (l := bytes)
    have stops := List.head?_dropWhile_not (· != 0) bytes
    refine ⟨filled, ?_⟩
    cases behind : bytes.dropWhile (· != 0) with
    | nil =>
        left
        rw [behind, List.append_nil] at cut
        exact cut.symm
    | cons byte rest =>
        right
        rw [behind] at cut stops
        have zero : byte = 0 := by simpa using stops
        rw [zero] at cut
        exact ⟨rest, cut.symm⟩
  · have passed : 0 ∉ text → ∀ byte ∈ text, (byte != 0) = true := by
      intro filled byte member
      simpa using ne_of_mem_of_not_mem member filled
    rintro ⟨filled, rfl | ⟨rest, rfl⟩⟩
    · exact List.takeWhile_eq_self_iff.mpr (passed filled)
    · rw [List.takeWhile_append_of_pos (passed filled)]
      simp

/-- The bytes in front of the first zero decode to the text that is spelled. -/
theorem decode_beforeZero_eq_some_iff {bytes : ByteArray} {name : String} :
    String.fromUTF8? (beforeZero bytes) = some name ↔ Spells bytes name := by
  have asLists : ∀ first second : ByteArray,
      first = second ↔ first.data.toList = second.data.toList := by
    intro first second
    constructor
    · rintro rfl
      rfl
    · intro same
      exact ByteArray.ext (Array.toList_inj.mp same)
  rw [fromUTF8?_eq_some_iff, asLists, beforeZero, takeWhile_ne_zero_eq_iff, Spells]

theorem decode_beforeZero_eq_none_iff {bytes : ByteArray} :
    String.fromUTF8? (beforeZero bytes) = none ↔ ∀ name, ¬ Spells bytes name := by
  rw [Option.eq_none_iff_forall_ne_some]
  simp only [ne_eq, decode_beforeZero_eq_some_iff]

/-! ## Entries -/

/-- What stands behind the first entry without a name is not read. -/
theorem insertNative_append_unnamed (table : OptionTable) (index : Nat)
    (named : List (ByteArray × Int32)) (value : Int32) (after : List NativeOption) :
    table.insertNative index (named.map .named ++ ⟨none, value⟩ :: after) =
      table.insertNative index (named.map .named) := by
  induction named generalizing table index with
  | nil => rfl
  | cons entry rest ih =>
      rw [List.map_cons, List.cons_append, insertNative, insertNative]
      simp only [NativeOption.named]
      cases String.fromUTF8? (beforeZero entry.1) with
      | none => rfl
      | some name =>
          dsimp only
          cases table.insert ⟨name, entry.2⟩ with
          | error fault => rfl
          | ok next => exact ih next (index + 1)

/-- Reading entries is inserting the options that they stand for, and going on behind them. -/
theorem insertNative_append {named : List (ByteArray × Int32)} {options : List BuildOption}
    (stand : List.Forall₂ StandsFor named options) (table : OptionTable) (index : Nat)
    (rest : List NativeOption) :
    table.insertNative index (named.map .named ++ rest) =
      match table.insertAll options with
      | .error fault => .error fault
      | .ok next => next.insertNative (index + named.length) rest := by
  induction stand generalizing table index with
  | nil => rfl
  | @cons entry option named options stands _ ih =>
      obtain ⟨spells, value⟩ := stands
      have decoded := decode_beforeZero_eq_some_iff.mpr spells
      rw [List.map_cons, List.cons_append, insertNative, insertAll]
      simp only [NativeOption.named, decoded, value]
      cases table.insert option with
      | error fault => rfl
      | ok next =>
          simp only [ih next (index + 1), List.length_cons, Nat.add_assoc, Nat.add_comm 1]

/-- All names spell texts, or there is a first one that does not. -/
theorem stand_or_breaks (named : List (ByteArray × Int32)) :
    (∃ options, List.Forall₂ StandsFor named options) ∨
      ∃ options, BreaksBehind named options := by
  induction named with
  | nil => exact .inl ⟨[], .nil⟩
  | cons entry rest ih =>
      cases decoded : String.fromUTF8? (beforeZero entry.1) with
      | none =>
          exact .inr ⟨[], [], entry, rest, rfl, .nil, decode_beforeZero_eq_none_iff.mp decoded⟩
      | some name =>
          have stands : StandsFor entry ⟨name, entry.2⟩ :=
            ⟨decode_beforeZero_eq_some_iff.mp decoded, rfl⟩
          rcases ih with ⟨options, stand⟩ | ⟨options, before, broken, after, rfl, stand, unspelled⟩
          · exact .inl ⟨_, .cons stands stand⟩
          · exact .inr ⟨_, entry :: before, broken, after, rfl, .cons stands stand, unspelled⟩

/-! ## Arrays -/

/-- A native array whose first entry without a name stands behind some named ones. -/
def nativeArray (named : List (ByteArray × Int32)) (value : Int32) (after : List NativeOption) :
    List NativeOption :=
  named.map .named ++ ⟨none, value⟩ :: after

variable {named : List (ByteArray × Int32)} {options : List BuildOption}

theorem ofNative_nativeArray (named : List (ByteArray × Int32)) (value : Int32)
    (after : List NativeOption) :
    ofNative (some (nativeArray named value after)) = empty.insertNative 0 (named.map .named) :=
  insertNative_append_unnamed empty 0 named value after

theorem ofNative_of_stand (stand : List.Forall₂ StandsFor named options) (value : Int32)
    (after : List NativeOption) :
    ofNative (some (nativeArray named value after)) = ofOptions options := by
  rw [nativeArray, ofNative, insertNative_append stand, ofOptions]
  cases empty.insertAll options <;> rfl

theorem ofNative_of_breaks (breaks : BreaksBehind named options) (value : Int32)
    (after : List NativeOption) :
    ofNative (some (nativeArray named value after)) =
      match ofOptions options with
      | .error fault => .error fault
      | .ok _ => .error (.invalidName options.length) := by
  obtain ⟨before, broken, rest, rfl, stand, unspelled⟩ := breaks
  have undecoded := decode_beforeZero_eq_none_iff.mpr unspelled
  rw [ofNative_nativeArray, List.map_append, List.map_cons, insertNative_append stand, ofOptions]
  cases empty.insertAll options with
  | error fault => rfl
  | ok next =>
      simp only [insertNative, NativeOption.named, undecoded, Nat.zero_add, stand.length_eq]

/-- A native array is read up to its first entry without a name, whatever stands behind that.  If
the bytes of all names in front of it spell texts, the table or the fault is that of the options
that the entries stand for.  Otherwise the options in front of the first unspelled name decide: a
name that repeats another one is reported, and where there is none the index of the unspelled
one. -/
theorem native_arrays_are_read_as_options (named : List (ByteArray × Int32)) (value : Int32)
    (after : List NativeOption) :
    (∀ options, List.Forall₂ StandsFor named options →
      ofNative (some (nativeArray named value after)) = ofOptions options) ∧
    (∀ options, BreaksBehind named options →
      (∀ name, FirstRepeated options name →
        ofNative (some (nativeArray named value after)) = .error (.repeatedOption name)) ∧
      ((¬ ∃ name, FirstRepeated options name) →
        ofNative (some (nativeArray named value after)) =
          .error (.invalidName options.length))) ∧
    ((∃ options, List.Forall₂ StandsFor named options) ∨
      ∃ options, BreaksBehind named options) ∧
    ∀ otherValue otherAfter, ofNative (some (nativeArray named otherValue otherAfter)) =
      ofNative (some (nativeArray named value after)) := by
  refine ⟨?_, ?_, stand_or_breaks named, ?_⟩
  · intro options stand
    exact ofNative_of_stand stand value after
  · intro options breaks
    rw [ofNative_of_breaks breaks]
    constructor
    · intro name repeated
      rw [ofOptions_of_firstRepeated repeated]
    · intro noneRepeated
      have apart := (nodup_or_exists_firstRepeated options).resolve_right noneRepeated
      rw [ofOptions_of_nodup apart]
  · intro otherValue otherAfter
    rw [ofNative_nativeArray, ofNative_nativeArray]

/-- Two names that are cut short to the same text, and one that is no text. -/
def cutShort : List (ByteArray × Int32) :=
  [(⟨#[66, 82, 0, 49]⟩, 1), (⟨#[66, 82, 0, 50]⟩, 2), (⟨#[255]⟩, 3)]

/-- The first name alone makes a table.  The repeated name is reported before the one that is no
text, and that one with its index where no name is repeated. -/
theorem native_arrays_of_cutShort_are_read_as_options :
    List.Forall₂ StandsFor (cutShort.take 1) [⟨"BR", 1⟩] ∧
      ofNative (some (nativeArray (cutShort.take 1) 0 [.named (⟨#[255]⟩, 4)])) =
        ofOptions [⟨"BR", 1⟩] ∧
      BreaksBehind cutShort [⟨"BR", 1⟩, ⟨"BR", 2⟩] ∧
      ofNative (some (nativeArray cutShort 0 [])) = .error (.repeatedOption "BR") ∧
      BreaksBehind (cutShort.drop 1) [⟨"BR", 2⟩] ∧
      ofNative (some (nativeArray (cutShort.drop 1) 0 [])) = .error (.invalidName 1) := by
  have first : StandsFor (⟨#[66, 82, 0, 49]⟩, 1) ⟨"BR", 1⟩ :=
    ⟨decode_beforeZero_eq_some_iff.mp rfl, rfl⟩
  have second : StandsFor (⟨#[66, 82, 0, 50]⟩, 2) ⟨"BR", 2⟩ :=
    ⟨decode_beforeZero_eq_some_iff.mp rfl, rfl⟩
  have unspelled : ∀ name, ¬ Spells ⟨#[255]⟩ name := decode_beforeZero_eq_none_iff.mp rfl
  have stand : List.Forall₂ StandsFor (cutShort.take 1) [⟨"BR", 1⟩] := .cons first .nil
  have breaks : BreaksBehind cutShort [⟨"BR", 1⟩, ⟨"BR", 2⟩] :=
    ⟨cutShort.take 2, (⟨#[255]⟩, 3), [], rfl, .cons first (.cons second .nil), unspelled⟩
  have breaksAlone : BreaksBehind (cutShort.drop 1) [⟨"BR", 2⟩] :=
    ⟨[(⟨#[66, 82, 0, 50]⟩, 2)], (⟨#[255]⟩, 3), [], rfl, .cons second .nil, unspelled⟩
  have repeated : FirstRepeated [⟨"BR", 1⟩, ⟨"BR", 2⟩] "BR" :=
    ⟨[⟨"BR", 1⟩], ⟨"BR", 2⟩, [], rfl, rfl, by decide, by decide⟩
  have apart : ¬ ∃ name, FirstRepeated [⟨"BR", 2⟩] name := by
    rintro ⟨name, repeated⟩
    cases (ofOptions_of_firstRepeated repeated).symm.trans (ofOptions_of_nodup (by decide))
  obtain ⟨read, -, -⟩ :=
    native_arrays_are_read_as_options (cutShort.take 1) 0 [.named (⟨#[255]⟩, 4)]
  obtain ⟨-, broken, -⟩ := native_arrays_are_read_as_options cutShort 0 []
  obtain ⟨-, brokenAlone, -⟩ := native_arrays_are_read_as_options (cutShort.drop 1) 0 []
  exact ⟨stand, read _ stand, breaks, (broken _ breaks).1 _ repeated, breaksAlone,
    (brokenAlone _ breaksAlone).2 apart⟩

end OptionTable
end BindingGen
