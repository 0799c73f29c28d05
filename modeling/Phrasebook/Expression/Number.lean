import Phrasebook.Text.Basic

/-!
# Numbers

A number is an integer in base ten, two, eight or sixteen, or has a fraction, an exponent or a `j`
at its end. Single underscores may stand between digits. It may not run into a name, other than a
keyword that goes on with the expression.
-/

namespace Phrasebook.Expression.Number

/-- A character that may belong to a name, as far as numbers need it. -/
def isNamePart (c : Char) : Bool :=
  c.isAlphanum || c = '_' || 0x80 ≤ c.toNat

def invalid (kind : String) : Text :=
  "invalid ".toList ++ kind.toList ++ " literal".toList

/-- The text begins with a keyword that may follow a number. -/
def keywordFollows (t : Text) : Bool :=
  (["and", "else", "for", "or", "not"].any fun w =>
    w.toList.isPrefixOf t && !(t.drop w.length).head?.any isNamePart)
    || ["if", "in", "is"].any fun w => w.toList.isPrefixOf t

/-- The text behind a number of some kind, which may not go on as a name does. -/
def behind (kind : String) (t : Text) : Except Text Text :=
  if keywordFollows t || !t.head?.any isNamePart then .ok t else .error (invalid kind)

/-- The text behind the other digits of a number, or the character behind an underscore if that is
no digit. -/
def afterDigits (isDigit : Char → Bool) : Text → Except (Option Char) Text
  | '_' :: t =>
    if t.head?.any isDigit then afterDigits isDigit t else .error t.head?
  | c :: t => if isDigit c then afterDigits isDigit t else .ok (c :: t)
  | [] => .ok []

def afterDecimals (t : Text) : Except Text Text :=
  (afterDigits Char.isDigit t).mapError fun _ => invalid "decimal"

/-- Reads the end of a number with a fraction. -/
def afterFraction (t : Text) : Except Text Text :=
  match t with
  | [] => behind "decimal" t
  | c :: rest =>
    if c = 'j' || c = 'J' then behind "imaginary" rest else behind "decimal" t

/-- Reads an exponent, if there is one, and the end of the number. -/
def afterExponent (t : Text) : Except Text Text :=
  match t with
  | [] => afterFraction t
  | c :: rest =>
    if c ≠ 'e' && c ≠ 'E' then afterFraction t
    else
      let signed := rest.head?.any fun s => s = '+' || s = '-'
      let digits := if signed then rest.drop 1 else rest
      if digits.head?.any Char.isDigit then do
        afterFraction (← afterDecimals digits)
      else if signed then .error (invalid "decimal")
      else behind "decimal" t

/-- Reads what follows the point of a number. -/
def afterPoint (t : Text) : Except Text Text := do
  if t.head?.any Char.isDigit then afterExponent (← afterDecimals t) else afterExponent t

/-- A base other than ten. -/
structure Base where
  letter : Char
  name : String
  isDigit : Char → Bool

def bases : List Base :=
  [⟨'x', "hexadecimal", fun c => c.isDigit || ('a' ≤ c.toLower && c.toLower ≤ 'f')⟩,
    ⟨'o', "octal", fun c => '0' ≤ c && c ≤ '7'⟩, ⟨'b', "binary", fun c => c = '0' || c = '1'⟩]

/-- The fault of a number in some base before a character that is no digit of it. -/
def Base.fault (b : Base) (c : Option Char) : Text :=
  match c.filter Char.isDigit with
  | some d => "invalid digit '".toList ++ d :: "' in ".toList ++ b.name.toList ++ " literal".toList
  | none => invalid b.name

/-- Reads the digits behind the letter of a base. -/
def Base.after (b : Base) (t : Text) : Except Text Text := do
  let t := if t.head? = some '_' then t.drop 1 else t
  if !t.head?.any b.isDigit then throw (b.fault t.head?)
  let rest ← (afterDigits b.isDigit t).mapError b.fault
  if b.name ≠ "hexadecimal" && rest.head?.any Char.isDigit then throw (b.fault rest.head?)
  behind b.name rest

/-- Reads a number in base ten that begins with a zero. Further digits before the point are zeros,
unless the number is no integer. -/
def afterZeros (t : Text) : Except Text Text := do
  let digits ← afterDecimals t
  match digits with
  | '.' :: rest => afterPoint rest
  | c :: _ =>
    if c = 'e' || c = 'E' || c = 'j' || c = 'J' then afterExponent digits else plain digits
  | [] => plain digits
where
  plain (rest : Text) : Except Text Text :=
    if (t.take (t.length - rest.length)).all fun c => c = '0' || c = '_' then
      behind "decimal" rest
    else
      .error ("leading zeros in decimal integer literals are not permitted; ".toList
        ++ "use an 0o prefix for octal integers".toList)

/-- The text behind the number with which a text begins; there is a digit at its start, or a point
with a digit behind it. -/
def after (t : Text) : Except Text Text := do
  match t with
  | '.' :: rest => afterPoint rest
  | '0' :: rest =>
    match bases.find? fun b => rest.head?.any fun c => c.toLower = b.letter with
    | some b => b.after (rest.drop 1)
    | none => afterZeros t
  | _ =>
    let rest ← afterDecimals t
    match rest with
    | '.' :: rest => afterPoint rest
    | _ => afterExponent rest

end Phrasebook.Expression.Number
