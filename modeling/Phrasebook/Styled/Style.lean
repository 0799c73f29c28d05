import Phrasebook.Styled.Color

/-!
# Styles

A style is described by words: attributes, each with `not` before it or nothing, a color, a color
behind `on`, and an address behind `link`. Of several words for one thing the last counts. Two
descriptions of one style have one canonical form.
-/

namespace Phrasebook.Styled

structure Style where
  /-- The attributes that were switched on or off, last one first. -/
  attributes : List (Text × Bool) := []
  color : Option Text := none
  background : Option Text := none
  link : Option Text := none

namespace Style

/-- The attributes in the order of the canonical form, each with its other name if it has one. -/
def attributeNames : List (Text × Option Text) :=
  [("bold", some "b"), ("dim", some "d"), ("italic", some "i"), ("underline", some "u"),
    ("blink", none), ("blink2", none), ("reverse", some "r"), ("conceal", some "c"),
    ("strike", some "s"), ("underline2", some "uu"), ("frame", none), ("encircle", none),
    ("overline", some "o")].map fun n => (n.1.toList, n.2.map String.toList)

/-- The attribute that goes by a name. -/
def attribute? (name : Text) : Option Text :=
  (attributeNames.find? fun n => n.1 = name || n.2 = some name).map Prod.fst

def addAttribute (s : Style) (name : Text) (on : Bool) : Style :=
  { s with attributes := (name, on) :: s.attributes }

/-- The style with what some words say. -/
def addWords (s : Style) : List Text → Except Unreadable Style
  | [] => .ok s
  | word :: words =>
    if Text.lower word = "on".toList then match words with
      | [] => .error .form
      | c :: words => do
        let c ← Styled.color c
        { s with background := some c }.addWords words
    else if Text.lower word = "not".toList then match words with
      | [] => .error .form
      | name :: words => match attribute? name with
        | none => .error .form
        | some name => (s.addAttribute name false).addWords words
    else if Text.lower word = "link".toList then match words with
      | [] => .error .form
      | address :: words => { s with link := some address }.addWords words
    else match attribute? (Text.lower word) with
      | some name => (s.addAttribute name true).addWords words
      | none => do
        let c ← Styled.color (Text.lower word)
        { s with color := some c }.addWords words

/-- The style that a text describes. -/
def ofText (t : Text) : Except Unreadable Style :=
  if Text.strip t = "none".toList then .ok {} else ({} : Style).addWords (parts t)

/-- The canonical form of a style. -/
def toText (s : Style) : Text :=
  let attributes := attributeNames.filterMap fun n => (s.attributes.lookup n.1).map fun on =>
    if on then n.1 else "not ".toList ++ n.1
  let words := attributes ++ s.color.toList ++ (s.background.map ("on ".toList ++ ·)).toList
    ++ (s.link.map ("link ".toList ++ ·)).toList
  if words.isEmpty then "none".toList else List.intercalate [' '] words

/-- The name under which a style is opened and closed: the canonical form, or the text itself in
lower case if it describes no style. -/
def canonicalName (t : Text) : Except Unreadable Text :=
  match ofText t with
  | .ok s => .ok s.toText
  | .error .form => .ok (Text.lower (Text.strip t))
  | .error .emptyShare => .error .emptyShare

end Style

end Phrasebook.Styled
