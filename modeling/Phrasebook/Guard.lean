import Phrasebook.Text.Offset
import Phrasebook.Text.Wide

/-!
# Guards

A guard says where a phrase that was found may be replaced. A phrase that is one word of ASCII
letters must not be replaced inside a longer word: `ON` stays as it is in `DRAGON`. Any other phrase
may be replaced wherever it occurs.
-/

namespace Phrasebook

open CodePoint (isAsciiLetter)

/-- Whether a text is made of ASCII letters alone. -/
def isBareWord (t : WideText) : Bool :=
  !t.isEmpty && t.all isAsciiLetter

/-- Admits or refuses the replacement of a phrase at a place of a text. -/
structure Guard where
  admits : (text : WideText) → (start : Nat) → (phrase : WideText) → Bool

namespace Guard

def letterAt (text : WideText) (i : Nat) : Bool :=
  text[i]?.any isAsciiLetter

/-- Refuses a word of ASCII letters with such a letter next to it. -/
def wholeWords : Guard where
  admits text start phrase :=
    !isBareWord phrase
      || (!(0 < start && letterAt text (start - 1)) && !letterAt text (start + phrase.length))

def never : Guard where
  admits _ _ _ := false

def always : Guard where
  admits _ _ _ := true

def letterAtOffset (text : WideText) (i : Int) : Except Text.Outside Bool :=
  (Text.itemAt .text text.toArray i).map isAsciiLetter

/-- The answer of `wholeWords` at a signed offset. The character before is looked at only past the
start of the text, the one behind only before its end; both have to exist then. -/
def wholeWordsAt (text : WideText) (start : Int) (phrase : WideText) : Except Text.Outside Bool :=
  if !isBareWord phrase then .ok true
  else do
    let stop := start + phrase.length
    if ← (if 0 < start then letterAtOffset text (start - 1) else .ok false) then return false
    if ← (if stop < text.length then letterAtOffset text stop else .ok false) then return false
    return true

end Guard

end Phrasebook
