/-!
# SHA-256

Generated files are reported with the SHA-256 digest of their bytes.  The message is padded to
whole blocks of sixteen words, every block is expanded to sixty-four words, and one round for
each of them is applied to the eight words of the state.
-/

namespace BindingGen
namespace Sha256

/-- The fractional parts of the cube roots of the first sixty-four primes. -/
def roundConstants : Array UInt32 := #[
  0x428a2f98, 0x71374491, 0xb5c0fbcf, 0xe9b5dba5, 0x3956c25b, 0x59f111f1,
  0x923f82a4, 0xab1c5ed5, 0xd807aa98, 0x12835b01, 0x243185be, 0x550c7dc3,
  0x72be5d74, 0x80deb1fe, 0x9bdc06a7, 0xc19bf174, 0xe49b69c1, 0xefbe4786,
  0x0fc19dc6, 0x240ca1cc, 0x2de92c6f, 0x4a7484aa, 0x5cb0a9dc, 0x76f988da,
  0x983e5152, 0xa831c66d, 0xb00327c8, 0xbf597fc7, 0xc6e00bf3, 0xd5a79147,
  0x06ca6351, 0x14292967, 0x27b70a85, 0x2e1b2138, 0x4d2c6dfc, 0x53380d13,
  0x650a7354, 0x766a0abb, 0x81c2c92e, 0x92722c85, 0xa2bfe8a1, 0xa81a664b,
  0xc24b8b70, 0xc76c51a3, 0xd192e819, 0xd6990624, 0xf40e3585, 0x106aa070,
  0x19a4c116, 0x1e376c08, 0x2748774c, 0x34b0bcb5, 0x391c0cb3, 0x4ed8aa4a,
  0x5b9cca4f, 0x682e6ff3, 0x748f82ee, 0x78a5636f, 0x84c87814, 0x8cc70208,
  0x90befffa, 0xa4506ceb, 0xbef9a3f7, 0xc67178f2]

structure State where
  a : UInt32
  b : UInt32
  c : UInt32
  d : UInt32
  e : UInt32
  f : UInt32
  g : UInt32
  h : UInt32
  deriving DecidableEq, Repr

/-- The fractional parts of the square roots of the first eight primes. -/
def initialState : State :=
  ⟨0x6a09e667, 0xbb67ae85, 0x3c6ef372, 0xa54ff53a,
    0x510e527f, 0x9b05688c, 0x1f83d9ab, 0x5be0cd19⟩

def rotateRight (w n : UInt32) : UInt32 :=
  (w >>> n) ||| (w <<< (32 - n))

/-- The length of the padding that ends a message of a given length with a whole block: the
marker, the zeros and the eight bytes of the length. -/
def zeroCount (length : Nat) : Nat :=
  (119 - length % 64) % 64

/-- The eight bytes of a number, the most significant first. -/
def bigEndian64 (n : Nat) : List UInt8 :=
  (List.range 8).map fun i => UInt8.ofNat (n / Nat.pow 256 (7 - i))

/-- A message with its padding. -/
def pad (message : ByteArray) : ByteArray :=
  let tail := 0x80 :: (List.replicate (zeroCount message.size) 0 ++ bigEndian64 (8 * message.size))
  message ++ ByteArray.mk tail.toArray

/-- The byte at an index as a word, zero past the end. -/
def byteAt (bytes : ByteArray) (index : Nat) : UInt32 :=
  if h : index < bytes.size then bytes[index].toUInt32 else 0

/-- The four bytes from an index on, the first the most significant. -/
def wordAt (bytes : ByteArray) (index : Nat) : UInt32 :=
  (byteAt bytes index <<< 24) ||| (byteAt bytes (index + 1) <<< 16) |||
    (byteAt bytes (index + 2) <<< 8) ||| byteAt bytes (index + 3)

/-- The sixty-four words that a block is expanded to. -/
def schedule (bytes : ByteArray) (block : Nat) : Array UInt32 :=
  let given := Array.ofFn fun i : Fin 16 => wordAt bytes (64 * block + 4 * i.val)
  (List.range 48).foldl (fun words i =>
    let w := fun j => words.getD (i + j) 0
    let s0 := rotateRight (w 1) 7 ^^^ rotateRight (w 1) 18 ^^^ (w 1 >>> 3)
    let s1 := rotateRight (w 14) 17 ^^^ rotateRight (w 14) 19 ^^^ (w 14 >>> 10)
    words.push (w 0 + s0 + w 9 + s1)) given

/-- One round, with the sum of its constant and its word of the schedule. -/
def round (s : State) (input : UInt32) : State :=
  let s1 := rotateRight s.e 6 ^^^ rotateRight s.e 11 ^^^ rotateRight s.e 25
  let choice := (s.e &&& s.f) ^^^ (~~~s.e &&& s.g)
  let t1 := s.h + s1 + choice + input
  let s0 := rotateRight s.a 2 ^^^ rotateRight s.a 13 ^^^ rotateRight s.a 22
  let majority := (s.a &&& s.b) ^^^ (s.a &&& s.c) ^^^ (s.b &&& s.c)
  ⟨t1 + (s0 + majority), s.a, s.b, s.c, s.d + t1, s.e, s.f, s.g⟩

def add (s t : State) : State :=
  ⟨s.a + t.a, s.b + t.b, s.c + t.c, s.d + t.d, s.e + t.e, s.f + t.f, s.g + t.g, s.h + t.h⟩

/-- The state after one more block. -/
def compress (bytes : ByteArray) (s : State) (block : Nat) : State :=
  let words := schedule bytes block
  let after := (List.range 64).foldl
    (fun s i => round s (roundConstants.getD i 0 + words.getD i 0)) s
  add s after

/-- The state after all blocks of the padded message. -/
def hash (message : ByteArray) : State :=
  let bytes := pad message
  (List.range (bytes.size / 64)).foldl (compress bytes) initialState

def hexDigit (n : Nat) : Char :=
  if n < 10 then Char.ofNat (48 + n) else Char.ofNat (87 + n)

/-- The eight hexadecimal digits of a word. -/
def hexWord (w : UInt32) : List Char :=
  (List.range 8).map fun i => hexDigit (w.toNat / Nat.pow 16 (7 - i) % 16)

/-- The digest of a message in lower-case hexadecimal digits. -/
def hex (message : ByteArray) : String :=
  let s := hash message
  String.ofList ([s.a, s.b, s.c, s.d, s.e, s.f, s.g, s.h].flatMap hexWord)

end Sha256
end BindingGen
