import Phrasebook.Text.Quoted

/-!
# UTF-8

A character is written as one to four bytes. The decoder reads one byte at a time and keeps the
sequence it is in. A byte that cannot go on a sequence ends it as malformed and is then read anew;
so does the end of the input. The strict reading refuses the first malformed sequence; the lenient
one puts U+FFFD in place of each.
-/

namespace Phrasebook

abbrev Bytes := List UInt8

namespace Text.Utf8

/-- The bytes of a character. -/
def encodeChar (c : Char) : Bytes :=
  let n := c.toNat
  if n < 0x80 then [n.toUInt8]
  else if n < 0x800 then [(0xc0 + n / 64).toUInt8, (0x80 + n % 64).toUInt8]
  else if n < 0x10000 then
    [(0xe0 + n / 4096).toUInt8, (0x80 + n / 64 % 64).toUInt8, (0x80 + n % 64).toUInt8]
  else
    [(0xf0 + n / 262144).toUInt8, (0x80 + n / 4096 % 64).toUInt8, (0x80 + n / 64 % 64).toUInt8,
      (0x80 + n % 64).toUInt8]

def encode (t : Text) : Bytes :=
  t.flatMap encodeChar

/-- The number of bytes of a text. -/
def size (t : Text) : Nat :=
  total (t.map Char.utf8Size)

/-- Why a sequence of bytes is no character. -/
inductive Cause
  | start
  | continuation
  | truncated
  deriving DecidableEq

/-- A malformed sequence: its offset in bytes, its length and its first byte. -/
structure Malformed where
  cause : Cause
  offset : Nat
  length : Nat
  lead : UInt8
  deriving DecidableEq

/-- A sequence that has begun: its first byte, the number of bytes so far and of those to come, the
bits so far, and the least and greatest next byte. -/
structure Pending where
  lead : UInt8
  length : Nat
  missing : Nat
  bits : Nat
  low : Nat
  high : Nat
  deriving DecidableEq

/-- The sequence that a byte above 0x7f begins. The bounds on the second byte rule out forms longer
than needed, surrogates and numbers past the last code point. -/
def Pending.ofLead? (b : UInt8) : Option Pending :=
  let n := b.toNat
  if 0xc2 ≤ n ∧ n ≤ 0xdf then some ⟨b, 1, 1, n - 0xc0, 0x80, 0xbf⟩
  else if n = 0xe0 then some ⟨b, 1, 2, 0, 0xa0, 0xbf⟩
  else if n = 0xed then some ⟨b, 1, 2, 0xd, 0x80, 0x9f⟩
  else if 0xe1 ≤ n ∧ n ≤ 0xef then some ⟨b, 1, 2, n - 0xe0, 0x80, 0xbf⟩
  else if n = 0xf0 then some ⟨b, 1, 3, 0, 0x90, 0xbf⟩
  else if 0xf1 ≤ n ∧ n ≤ 0xf3 then some ⟨b, 1, 3, n - 0xf0, 0x80, 0xbf⟩
  else if n = 0xf4 then some ⟨b, 1, 3, 4, 0x80, 0x8f⟩
  else none

/-- A character read, or a malformed sequence. -/
inductive Piece
  | char (c : Char)
  | malformed (m : Malformed)

/-- The offset of the next byte, the sequence it may go on, and what was read, last piece first. -/
structure Decoder where
  offset : Nat := 0
  pending : Option Pending := none
  pieces : List Piece := []

namespace Decoder

def malformed (d : Decoder) (cause : Cause) (p : Pending) : Piece :=
  .malformed ⟨cause, d.offset - p.length, p.length, p.lead⟩

/-- Reads a byte that goes on no sequence. -/
def begin (d : Decoder) (b : UInt8) : Decoder :=
  if b.toNat < 0x80 then ⟨d.offset + 1, none, .char (Char.ofNat b.toNat) :: d.pieces⟩
  else match Pending.ofLead? b with
    | some p => ⟨d.offset + 1, some p, d.pieces⟩
    | none => ⟨d.offset + 1, none, .malformed ⟨.start, d.offset, 1, b⟩ :: d.pieces⟩

def read (d : Decoder) (b : UInt8) : Decoder :=
  match d.pending with
  | none => d.begin b
  | some p =>
    if p.low ≤ b.toNat ∧ b.toNat ≤ p.high then
      let bits := p.bits * 64 + (b.toNat - 0x80)
      if p.missing = 1 then ⟨d.offset + 1, none, .char (Char.ofNat bits) :: d.pieces⟩
      else ⟨d.offset + 1, some ⟨p.lead, p.length + 1, p.missing - 1, bits, 0x80, 0xbf⟩, d.pieces⟩
    else
      begin ⟨d.offset, none, d.malformed .continuation p :: d.pieces⟩ b

/-- Reads the end of the input. -/
def finish (d : Decoder) : Decoder :=
  match d.pending with
  | none => d
  | some p => ⟨d.offset, none, d.malformed .truncated p :: d.pieces⟩

/-- The text read so far, or its first malformed sequence. -/
def text? (d : Decoder) : Except Malformed Text :=
  d.pieces.foldl (fun text piece => match piece with
    | .char c => text.map (c :: ·)
    | .malformed m => .error m) (.ok [])

end Decoder

/-- What the bytes hold, in order. -/
def pieces (bytes : Bytes) : List Piece :=
  (bytes.foldl Decoder.read {}).finish.pieces.reverse

/-- The text that the bytes hold, or their first malformed sequence. -/
def decode (bytes : Bytes) : Except Malformed Text :=
  (bytes.foldl Decoder.read {}).finish.text?

/-- The text that the bytes hold, with U+FFFD for each malformed sequence. -/
def decodeLenient (bytes : Bytes) : Text :=
  (pieces bytes).map fun
    | .char c => c
    | .malformed _ => '\ufffd'

def Cause.message : Cause → Text
  | .start => "invalid start byte".toList
  | .continuation => "invalid continuation byte".toList
  | .truncated => "unexpected end of data".toList

def Malformed.message (m : Malformed) : Text :=
  let place :=
    if m.length = 1 then
      "byte 0x".toList ++ hexDigits 2 m.lead.toNat ++ " in position ".toList ++ decimal m.offset
    else
      "bytes in position ".toList ++ decimal m.offset ++ ['-'] ++ decimal (m.offset + m.length - 1)
  "'utf-8' codec can't decode ".toList ++ place ++ ": ".toList ++ m.cause.message

end Text.Utf8

end Phrasebook
