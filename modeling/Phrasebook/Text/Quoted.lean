import Phrasebook.Text.Printable

/-!
# Quoted texts

A text is shown to the user between quotes: single ones, or double ones when it holds a single quote
and no double one. Inside, the backslash and the quote in use are escaped, as is every character
that is not printable.
-/

namespace Phrasebook.Text

/-- The last `n` digits of a number in base sixteen. -/
def hexDigits (n value : Nat) : Text :=
  let digits := Nat.toDigits 16 value
  List.replicate (n - digits.length) '0' ++ digits

namespace Quoted

/-- The quote that a text is put between. -/
def mark (t : Text) : Char :=
  if t.contains '\'' && !t.contains '"' then '"' else '\''

def escape (mark c : Char) : Text :=
  if c = mark || c = '\\' then ['\\', c]
  else if c = '\n' then ['\\', 'n']
  else if c = '\r' then ['\\', 'r']
  else if c = '\t' then ['\\', 't']
  else if isPrintable c then [c]
  else if c.toNat < 0x100 then '\\' :: 'x' :: hexDigits 2 c.toNat
  else if c.toNat < 0x10000 then '\\' :: 'u' :: hexDigits 4 c.toNat
  else '\\' :: 'U' :: hexDigits 8 c.toNat

end Quoted

/-- The text as it is shown in a message. -/
def quoted (t : Text) : Text :=
  let mark := Quoted.mark t
  mark :: t.flatMap (Quoted.escape mark) ++ [mark]

end Phrasebook.Text
