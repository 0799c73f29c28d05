import Phrasebook.Text.Basic
import Phrasebook.Text.CharacterNames

/-!
# Telling names of characters

A name of a character is one of a list, in letters of any case, or is made by a rule: the name of a
syllable of Hangul from those of its letters, and the name of an ideograph from its number.
-/

namespace Phrasebook.Text

/-! ## The list -/

/-- How far the list of names is read, in search of a name. -/
structure NameSearch where
  /-- What there is of the name that is read, last character first. -/
  name : Text := []
  isWhole : Bool := false
  found : Bool := false

/-- Reads one more character of the list. The target is given last character first, in capitals. -/
def NameSearch.read (target : Text) (s : NameSearch) (c : Char) : NameSearch :=
  if c = '\n' then s
  else if 'a' ≤ c && c ≤ 'z' then
    { name := s.name.drop (c.toNat - 'a'.toNat)
      isWhole := false
      found := s.found || (s.isWhole && s.name = target) }
  else { s with name := c :: s.name, isWhole := true }

def isListedName (t : Text) : Bool :=
  (characterNames.foldl (NameSearch.read (t.map Char.toUpper).reverse) {}).found

/-! ## Syllables -/

def initialLetters : List Text :=
  ["G", "GG", "N", "D", "DD", "R", "M", "B", "BB", "S", "SS", "", "J", "JJ", "C", "K", "T", "P",
    "H"].map String.toList

def vowels : List Text :=
  ["A", "AE", "YA", "YAE", "EO", "E", "YEO", "YE", "O", "WA", "WAE", "OE", "YO", "U", "WEO", "WE",
    "WI", "YU", "EU", "YI", "I"].map String.toList

def finalLetters : List Text :=
  ["", "G", "GG", "GS", "N", "NJ", "NH", "D", "L", "LG", "LM", "LB", "LS", "LT", "LP", "LH", "M",
    "B", "BS", "S", "SS", "NG", "J", "C", "K", "T", "P", "H"].map String.toList

/-- The text behind the longest of some names with which it begins. -/
def behindLongest? (names : List Text) (t : Text) : Option Text :=
  ((names.filter (·.isPrefixOf t)).map List.length).max?.map t.drop

def isSyllable (t : Text) : Bool :=
  [initialLetters, vowels, finalLetters].foldlM (fun t names => behindLongest? names t) t = some []

/-! ## Ideographs -/

/-- The number that digits of base sixteen write, in capitals only. -/
def capitalHexNumber? (t : Text) : Option Nat :=
  t.foldlM (fun n c =>
    if c.isDigit then some (16 * n + (c.toNat - '0'.toNat))
    else if 'A' ≤ c && c ≤ 'F' then some (16 * n + (c.toNat - 'A'.toNat + 10))
    else none) 0

/-- The ranges of numbers that ideographs have. -/
def ideographs : List (Nat × Nat) :=
  [(0x3400, 0x4dbf), (0x4e00, 0x9fff), (0x20000, 0x2a6df), (0x2a700, 0x2b738), (0x2b740, 0x2b81d),
    (0x2b820, 0x2cea1), (0x2ceb0, 0x2ebe0), (0x30000, 0x3134a)]

def isIdeographNumber (t : Text) : Bool :=
  (t.length = 4 || t.length = 5)
    && (capitalHexNumber? t).any fun n => ideographs.any fun r => r.1 ≤ n && n ≤ r.2

/-! ## Names -/

/-- The text is the name of a character. The words that a rule begins with are in capitals. -/
def isCharacterName (t : Text) : Bool :=
  let syllable := "HANGUL SYLLABLE ".toList
  let ideograph := "CJK UNIFIED IDEOGRAPH-".toList
  if syllable.isPrefixOf t then isSyllable (t.drop syllable.length)
  else if ideograph.isPrefixOf t then isIdeographNumber (t.drop ideograph.length)
  else isListedName t

end Phrasebook.Text
