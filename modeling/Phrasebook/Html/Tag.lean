import Phrasebook.Text.Wide

/-!
# Tags

A tag is a text from `<` to the next `>`. Its name is the run of ASCII letters and digits behind
the `<`, a slash and blanks; comments and declarations have none. Names are compared in lower case.
-/

namespace Phrasebook.Html

/-- What a tag with a name does: it opens or closes an element. -/
structure TagName where
  closing : Bool
  name : Text
  deriving DecidableEq

def isNameChar (c : Char) : Bool :=
  c.isDigit || ('a' ≤ c && c ≤ 'z') || ('A' ≤ c && c ≤ 'Z')

/-- The lower case of a character as far as names need it. Names of tags are ASCII, and of all other
characters only the Kelvin sign has a lower case in ASCII. -/
def lowerChar (c : Char) : Char :=
  if c = '\u212a' then 'k' else c.toLower

def lower (t : Text) : Text :=
  t.map lowerChar

/-- The name of a tag and whether it closes. -/
def TagName.ofTag? (tag : WideText) : Option TagName :=
  match tag with
  | .char '<' :: t =>
    let t := t.dropWhile CodePoint.isBlank
    let closing := t.head? = some (.char '/')
    let t := if closing then (t.drop 1).dropWhile CodePoint.isBlank else t
    let name := WideText.chars (t.takeWhile (·.is isNameChar))
    if name.isEmpty then none else some ⟨closing, lower name⟩
  | _ => none

/-- Whether a tag ends with a slash, blanks and `>`. -/
def isSelfClosing (tag : WideText) : Bool :=
  match tag.reverse with
  | .char '>' :: t => (t.dropWhile CodePoint.isBlank).head? = some (.char '/')
  | _ => false

end Phrasebook.Html
