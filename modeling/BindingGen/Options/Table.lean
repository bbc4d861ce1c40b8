/-!
# The option table of a native library

A library describes how it was built by an array of named integers that ends at the first entry
without a name.  A table keeps the entries in order, and no name occurs in it twice.
-/

namespace BindingGen

/-- An option of a native library. -/
structure BuildOption where
  name : String
  value : Int32
  deriving DecidableEq, Repr

/-- An entry of the native array; its name is a sequence of bytes that ends at the first zero. -/
structure NativeOption where
  name : Option ByteArray
  value : Int32

namespace OptionTable

inductive Fault where
  | nullTable
  | invalidName (index : Nat)
  | repeatedOption (name : String)
  | missingOption (name : String)
  deriving DecidableEq, Repr

def Fault.message : Fault → String
  | .nullTable => "configuration table pointer is null"
  | .invalidName index => s!"option {index} has a non UTF-8 name"
  | .repeatedOption name => s!"option '{name}' appears more than once"
  | .missingOption name => s!"missing configuration option '{name}'"

end OptionTable

structure OptionTable where
  entries : List BuildOption
  deriving DecidableEq, Repr

namespace OptionTable

def empty : OptionTable :=
  ⟨[]⟩

def get? (table : OptionTable) (name : String) : Option Int32 :=
  (table.entries.find? fun option => option.name == name).map BuildOption.value

/-- The value of an option that has to be there. -/
def require (table : OptionTable) (name : String) : Except Fault Int32 :=
  match table.get? name with
  | some value => .ok value
  | none => .error (.missingOption name)

/-- Adds an option with a new name at the end. -/
def insert (table : OptionTable) (option : BuildOption) : Except Fault OptionTable :=
  if (table.get? option.name).isSome then .error (.repeatedOption option.name)
  else .ok ⟨table.entries ++ [option]⟩

/-- Adds options one after another. -/
def insertAll (table : OptionTable) : List BuildOption → Except Fault OptionTable
  | [] => .ok table
  | option :: rest =>
    match table.insert option with
    | .error fault => .error fault
    | .ok table => insertAll table rest

/-- The table of some options. -/
def ofOptions (options : List BuildOption) : Except Fault OptionTable :=
  empty.insertAll options

/-- The bytes in front of the first zero. -/
def beforeZero (bytes : ByteArray) : ByteArray :=
  ByteArray.mk (bytes.data.toList.takeWhile (· != 0)).toArray

/-- Adds native entries, the first of them counted as `index`, up to one without a name. -/
def insertNative (table : OptionTable) (index : Nat) :
    List NativeOption → Except Fault OptionTable
  | [] => .ok table
  | entry :: rest =>
    match entry.name with
    | none => .ok table
    | some bytes =>
      match String.fromUTF8? (beforeZero bytes) with
      | none => .error (.invalidName index)
      | some name =>
        match table.insert ⟨name, entry.value⟩ with
        | .error fault => .error fault
        | .ok table => insertNative table (index + 1) rest

/-- The table of a native array, which is absent when its address is null. -/
def ofNative : Option (List NativeOption) → Except Fault OptionTable
  | none => .error .nullTable
  | some entries => empty.insertNative 0 entries

end OptionTable
end BindingGen
