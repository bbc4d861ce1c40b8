import BindingGen.Text.Lowercase

/-!
# Target platforms

A platform is an operating system family together with a word size.  Its constant is the
preprocessor symbol that selects its bindings, and its family and architecture name the native
library that they load.
-/

namespace BindingGen

structure SystemFamily where
  id : String
  constant : String
  friendlyName : String
  libraryExtension : String
  deriving DecidableEq, Repr, Inhabited

structure Platform where
  id : String
  /-- The preprocessor symbol that is defined when this platform is compiled for. -/
  constant : String
  family : SystemFamily
  is64Bit : Bool
  className : String
  deriving DecidableEq, Repr, Inhabited

namespace SystemFamily

def linux : SystemFamily := ⟨"linux", "LINUX", "Linux", "so"⟩

def windows : SystemFamily := ⟨"win", "WIN", "Windows", "dll"⟩

def osx : SystemFamily := ⟨"osx", "OSX", "OSX", "dylib"⟩

/-- The families that the library knows of itself. -/
def builtin : List SystemFamily :=
  [linux, windows, osx]

end SystemFamily

namespace Platform

def architecture (p : Platform) : String :=
  if p.is64Bit then "x64" else "x86"

/-- The file name of the native library with a given stem. -/
def libraryFileName (p : Platform) (stem : String) : String :=
  stem ++ "." ++ String.ofList (Text.lowercase p.family.id.toList) ++ "." ++ p.architecture ++ "."
    ++ p.family.libraryExtension

/-- The platforms that the library knows of itself, in the order of their files. -/
def builtin : List Platform :=
  [⟨"win-x86", "WIN_X86", .windows, false, "Win32"⟩,
    ⟨"win-x64", "WIN_X64", .windows, true, "Win64"⟩,
    ⟨"linux-x86", "LINUX_X86", .linux, false, "Linux32"⟩,
    ⟨"linux-x64", "LINUX_X64", .linux, true, "Linux64"⟩,
    ⟨"osx-x64", "OSX_X64", .osx, true, "MacOs64"⟩]

end Platform
end BindingGen
