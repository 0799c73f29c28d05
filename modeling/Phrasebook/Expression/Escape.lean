import Phrasebook.Text.CharacterName
import Phrasebook.Text.Quoted

/-!
# Escapes

In a text between quotes, a backslash and a letter may stand for a character that is given by its
number or its name. The digits of a number must all be there. Faults are told by positions in a
spelling of the text in which a character beyond ASCII is an escape of ten characters.
-/

namespace Phrasebook.Expression.Escape

def isHexDigit (c : Char) : Bool :=
  c.isDigit || ('a' ≤ c.toLower && c.toLower ≤ 'f')

/-- The number that digits of base sixteen write. -/
def hexNumber (digits : Text) : Nat :=
  digits.foldl (fun n c =>
    16 * n + (if c.isDigit then c.toNat - '0'.toNat else c.toLower.toNat - 'a'.toNat + 10)) 0

/-- The number of digits that an escape needs. -/
def digitCount? : Char → Option Nat
  | 'x' => some 2
  | 'u' => some 4
  | 'U' => some 8
  | _ => none

def spellChar (c : Char) : Text :=
  if c.toNat < 0x80 then [c] else '\\' :: 'U' :: Text.hexDigits 8 c.toNat

/-- The text with its characters beyond ASCII spelled as escapes. -/
def spell : Text → Text
  | '\\' :: c :: t =>
    (if c.toNat < 0x80 then ['\\', c] else "\\u005c".toList ++ spellChar c) ++ spell t
  | c :: t => spellChar c ++ spell t
  | [] => []

/-- A fault that covers the characters from `start` on up to `stop`. -/
def fault (start stop : Nat) (reason : Text) : Text :=
  "(unicode error) 'unicodeescape' codec can't decode bytes in position ".toList
    ++ Text.decimal start ++ '-' :: Text.decimal (stop - 1) ++ ": ".toList ++ reason

def truncated (letter : Char) (count : Nat) : Text :=
  "truncated \\".toList ++ letter :: List.replicate count 'X' ++ " escape".toList

/-- The greatest number of a character. -/
def maxCode : Nat := 0x10ffff

/-- The fault of a character's name behind `\N` at a position, if there is one, and the number of
characters of the name with its brackets. -/
def nameFault (position : Nat) (t : Text) : Option Text × Nat :=
  let malformed (stop : Nat) : Option Text :=
    some (fault position stop "malformed \\N character escape".toList)
  match t with
  | '\x7b' :: t =>
    let name := t.takeWhile (· ≠ '\x7d')
    let stop := position + 3 + name.length
    if name.length = t.length || name.isEmpty then (malformed stop, 0)
    else if Text.isCharacterName name then (none, name.length + 2)
    else (some (fault position (stop + 1) "unknown Unicode character name".toList), 0)
  | _ => (malformed (position + 2), 0)

/-- The first fault of a spelled text that begins at a position. -/
def firstFault? (position : Nat) : Text → Option Text
  | '\\' :: c :: t =>
    match digitCount? c with
    | some count =>
      let digits := (t.take count).takeWhile isHexDigit
      let stop := position + 2 + digits.length
      if digits.length < count then some (fault position stop (truncated c count))
      else if maxCode < hexNumber digits then
        some (fault position stop "illegal Unicode character".toList)
      else firstFault? stop (t.drop count)
    | none =>
      let (found, length) := if c = 'N' then nameFault position t else (none, 0)
      found.or (firstFault? (position + 2 + length) (t.drop length))
  | _ :: t => firstFault? (position + 1) t
  | [] => none
termination_by t => t.length
decreasing_by all_goals simp only [List.length_cons, List.length_drop]; omega

/-- Why a text between quotes cannot be read. -/
def textFault? (t : Text) : Option Text :=
  firstFault? 0 (spell t)

/-- Why bytes between quotes, which begin at a position, cannot be read. -/
def bytesFault? (position : Nat) : Text → Option Text
  | '\\' :: 'x' :: t =>
    if (t.take 2).length = 2 && (t.take 2).all isHexDigit then
      bytesFault? (position + 4) (t.drop 2)
    else
      some ("(value error) invalid \\x escape at position ".toList ++ Text.decimal position)
  | '\\' :: _ :: t => bytesFault? (position + 2) t
  | _ :: t => bytesFault? (position + 1) t
  | [] => none
termination_by t => t.length
decreasing_by all_goals simp only [List.length_cons, List.length_drop]; omega

end Phrasebook.Expression.Escape
