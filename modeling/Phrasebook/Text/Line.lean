import Phrasebook.Text.Utf8

/-!
# Lines

A line ends with a line feed, a carriage return or both. A reader of lines takes bytes in blocks and
decodes one block after the other, so a malformed sequence does not keep it from the lines that end
before the block in which the sequence is found out.
-/

namespace Phrasebook.Text

def isLineBreak (c : Char) : Bool :=
  c = '\n' || c = '\r'

/-- The text with a line feed for each line break. -/
def withLineFeeds (t : Text) : Text :=
  (('\n' :: t).zip t).filterMap fun (before, c) =>
    if c = '\n' && before = '\r' then none else some (if c = '\r' then '\n' else c)

/-- The text up to its last line break. A carriage return at its end is not counted: a line feed may
follow and belong to it. -/
def wholeLines (t : Text) : Text :=
  let r := t.reverse
  let r := if r.head? = some '\r' then r.tail else r
  (r.dropWhile fun c => !isLineBreak c).reverse

namespace Utf8

/-- The number of bytes of a block. -/
def blockSize : Nat := 8192

/-- The text that a reader of lines gets, and the malformed sequence that stops it. -/
structure Lines where
  text : Text
  failure : Option Malformed

/-- The number of bytes that have been read when a malformed sequence is found out: one more than it
has, or two if it begins a surrogate. A sequence that breaks off is never found out by a byte. -/
def Malformed.seenBy? (m : Malformed) (bytes : Bytes) : Option Nat :=
  match m.cause with
  | .start => some (m.offset + 1)
  | .continuation =>
    let surrogate := m.lead = 0xed && (bytes[m.offset + 1]?).any fun b => 0xa0 ≤ b && b ≤ 0xbf
    some (m.offset + m.length + if surrogate then 2 else 1)
  | .truncated => none

/-- The number of bytes before the block in which a malformed sequence is found out. One that no
byte finds out is found out behind the last block. -/
def Malformed.blockStart (m : Malformed) (bytes : Bytes) : Nat :=
  match m.seenBy? bytes with
  | none => bytes.length
  | some n => if bytes.length < n then bytes.length else (n - 1) / blockSize * blockSize

/-- What a reader of lines gets. Its failure counts bytes from the first one not yet decoded when
the block was read. -/
def readLines (bytes : Bytes) : Lines :=
  match decode bytes with
  | .ok text => ⟨text, none⟩
  | .error m =>
    let start := m.blockStart bytes
    let before := (bytes.take (min start m.offset)).foldl Decoder.read {}
    let carried := (before.pending.map Pending.length).getD 0
    let text := match before.text? with
      | .ok text => text
      | .error _ => []
    ⟨wholeLines text, some { m with offset := m.offset - (min start m.offset - carried) }⟩

end Utf8

end Phrasebook.Text
