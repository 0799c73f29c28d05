import Phrasebook.Text.Utf8

/-!
# SHA-256

The digest of a sequence of bytes: the bytes are padded to whole blocks of 64, each block stirs a
state of eight words, and the last state is written out in base sixteen.
-/

namespace Phrasebook.Digest.Sha256

/-- The first 32 bits of the fractional parts of the cube roots of the first 64 primes. -/
def roundConstants : List UInt32 :=
  [
    0x428a2f98, 0x71374491, 0xb5c0fbcf, 0xe9b5dba5, 0x3956c25b, 0x59f111f1, 0x923f82a4, 0xab1c5ed5,
    0xd807aa98, 0x12835b01, 0x243185be, 0x550c7dc3, 0x72be5d74, 0x80deb1fe, 0x9bdc06a7, 0xc19bf174,
    0xe49b69c1, 0xefbe4786, 0x0fc19dc6, 0x240ca1cc, 0x2de92c6f, 0x4a7484aa, 0x5cb0a9dc, 0x76f988da,
    0x983e5152, 0xa831c66d, 0xb00327c8, 0xbf597fc7, 0xc6e00bf3, 0xd5a79147, 0x06ca6351, 0x14292967,
    0x27b70a85, 0x2e1b2138, 0x4d2c6dfc, 0x53380d13, 0x650a7354, 0x766a0abb, 0x81c2c92e, 0x92722c85,
    0xa2bfe8a1, 0xa81a664b, 0xc24b8b70, 0xc76c51a3, 0xd192e819, 0xd6990624, 0xf40e3585, 0x106aa070,
    0x19a4c116, 0x1e376c08, 0x2748774c, 0x34b0bcb5, 0x391c0cb3, 0x4ed8aa4a, 0x5b9cca4f, 0x682e6ff3,
    0x748f82ee, 0x78a5636f, 0x84c87814, 0x8cc70208, 0x90befffa, 0xa4506ceb, 0xbef9a3f7, 0xc67178f2]

/-- The eight words of the state. -/
structure State where
  a : UInt32
  b : UInt32
  c : UInt32
  d : UInt32
  e : UInt32
  f : UInt32
  g : UInt32
  h : UInt32

/-- The first 32 bits of the fractional parts of the square roots of the first eight primes. -/
def State.initial : State :=
  ⟨0x6a09e667, 0xbb67ae85, 0x3c6ef372, 0xa54ff53a, 0x510e527f, 0x9b05688c,
    0x1f83d9ab, 0x5be0cd19⟩

def State.add (s t : State) : State :=
  ⟨s.a + t.a, s.b + t.b, s.c + t.c, s.d + t.d, s.e + t.e, s.f + t.f, s.g + t.g, s.h + t.h⟩

def rotateRight (x : UInt32) (n : UInt32) : UInt32 :=
  (x >>> n) ||| (x <<< (32 - n))

/-- One round, with the sum of the round's constant and its word of the schedule. -/
def State.round (s : State) (kw : UInt32) : State :=
  let s1 := rotateRight s.e 6 ^^^ rotateRight s.e 11 ^^^ rotateRight s.e 25
  let ch := (s.e &&& s.f) ^^^ (~~~s.e &&& s.g)
  let t1 := s.h + s1 + ch + kw
  let s0 := rotateRight s.a 2 ^^^ rotateRight s.a 13 ^^^ rotateRight s.a 22
  let maj := (s.a &&& s.b) ^^^ (s.a &&& s.c) ^^^ (s.b &&& s.c)
  ⟨t1 + (s0 + maj), s.a, s.b, s.c, s.d + t1, s.e, s.f, s.g⟩

/-- The word of the schedule that follows the words of `w`. -/
def nextWord (w : Array UInt32) : UInt32 :=
  let back (n : Nat) := w.getD (w.size - n) 0
  let s0 := rotateRight (back 15) 7 ^^^ rotateRight (back 15) 18 ^^^ (back 15 >>> 3)
  let s1 := rotateRight (back 2) 17 ^^^ rotateRight (back 2) 19 ^^^ (back 2 >>> 10)
  back 16 + s0 + back 7 + s1

/-- The first `n` words that follow the words of `w`, after them. -/
def extend (w : Array UInt32) : Nat → Array UInt32
  | 0 => w
  | n + 1 => extend (w.push (nextWord w)) n

/-- The words of a block, most significant byte first. -/
def words : Bytes → List UInt32
  | a :: b :: c :: d :: rest =>
    ((a.toUInt32 <<< 24) ||| (b.toUInt32 <<< 16) ||| (c.toUInt32 <<< 8) ||| d.toUInt32)
      :: words rest
  | _ => []

def State.block (s : State) (block : Bytes) : State :=
  let schedule := extend (words block).toArray 48
  s.add ((roundConstants.zipWith (· + ·) schedule.toList).foldl State.round s)

/-- The `n` bytes of a number, most significant first. -/
def bigEndian (value : Nat) : (n : Nat) → Bytes
  | 0 => []
  | n + 1 => (value / 256 ^ n).toUInt8 :: bigEndian value n

/-- The bytes with a one bit, zeros up to eight bytes before the end of a block, and their number of
bits. -/
def pad (bytes : Bytes) : Bytes :=
  let n := bytes.length
  bytes ++ 0x80 :: List.replicate ((119 - n % 64) % 64) 0 ++ bigEndian (8 * n) 8

def blocks (s : State) : (n : Nat) → Bytes → State
  | 0, _ => s
  | n + 1, bytes => blocks (s.block (bytes.take 64)) n (bytes.drop 64)

/-- The digest in base sixteen. -/
def hex (bytes : Bytes) : Text :=
  let padded := pad bytes
  let s := blocks .initial (padded.length / 64) padded
  [s.a, s.b, s.c, s.d, s.e, s.f, s.g, s.h].flatMap fun w => Text.hexDigits 8 w.toNat

/-- The digest of a text's encoding. -/
def ofText (t : Text) : Text :=
  hex (Text.Utf8.encode t)

end Phrasebook.Digest.Sha256
