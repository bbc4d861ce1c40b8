import BindingGen.Options.Table

/-!
# Build settings of a native library

The settings are derived from nine options of the table.  A flag is set when its option is
exactly one; a size is the value of its option.
-/

namespace BindingGen

structure LibraryBuild where
  is64Bit : Bool
  aesX86ni : Bool
  beUnaligned : Bool
  int128 : Bool
  leUnaligned : Bool
  maxEcSize : Int32
  maxRsaSize : Int32
  maxRsaFactor : Int32
  sse2 : Bool
  deriving DecidableEq, Repr

namespace LibraryBuild

def flag (table : OptionTable) (name : String) : Except OptionTable.Fault Bool :=
  (table.require name).map (· == 1)

/-- The settings of a table; the first missing option is the one reported. -/
def ofTable (table : OptionTable) : Except OptionTable.Fault LibraryBuild := do
  let is64Bit ← flag table "BR_64"
  let aesX86ni ← flag table "BR_AES_X86NI"
  let beUnaligned ← flag table "BR_BE_UNALIGNED"
  let int128 ← flag table "BR_INT128"
  let leUnaligned ← flag table "BR_LE_UNALIGNED"
  let maxEcSize ← table.require "BR_MAX_EC_SIZE"
  let maxRsaSize ← table.require "BR_MAX_RSA_SIZE"
  let maxRsaFactor ← table.require "BR_MAX_RSA_FACTOR"
  let sse2 ← flag table "BR_SSE2"
  return {
    is64Bit, aesX86ni, beUnaligned, int128, leUnaligned, maxEcSize, maxRsaSize, maxRsaFactor, sse2 }

/-- The settings of a native array. -/
def ofNative (entries : Option (List NativeOption)) : Except OptionTable.Fault LibraryBuild := do
  ofTable (← OptionTable.ofNative entries)

end LibraryBuild
end BindingGen
