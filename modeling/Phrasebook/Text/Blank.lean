import Phrasebook.Text.Basic

/-!
# Blank characters

The characters that count as white space between words: the ASCII blanks from tab to carriage
return, the four information separators, the space, and the separators that Unicode adds.
-/

namespace Phrasebook.Text

/-- The blank characters as closed ranges of code points, in increasing order. -/
def blankRanges : List (Nat × Nat) :=
  [(0x9, 0xd), (0x1c, 0x20), (0x85, 0x85), (0xa0, 0xa0), (0x1680, 0x1680), (0x2000, 0x200a),
   (0x2028, 0x2029), (0x202f, 0x202f), (0x205f, 0x205f), (0x3000, 0x3000)]

def isBlank (c : Char) : Bool :=
  inRanges blankRanges c

/-- The text without the blanks at both ends. -/
def strip (t : Text) : Text :=
  ((t.dropWhile isBlank).reverse.dropWhile isBlank).reverse

end Phrasebook.Text
