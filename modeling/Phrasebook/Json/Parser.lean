import Phrasebook.Json.Basic
import Phrasebook.Json.Error

/-!
# Reading JSON

A document is one value between blanks. The reader goes through the text once with the offset of the
next character, and stops at the first character that no document could hold there.
-/

namespace Phrasebook.Json

/-- Where reading stands: the offset of the next character and the text from there on. -/
structure Cursor where
  offset : Nat
  rest : Text

inductive Fault
  | malformed (cause : Cause) (offset : Nat)
  | integerTooLong (digits : Nat)
  | tooDeep (innermost : Container)

abbrev Read (α : Type) := Except Fault (α × Cursor)

def Cursor.fail {α : Type} (c : Cursor) (cause : Cause) : Except Fault α :=
  .error (.malformed cause c.offset)

def Cursor.advance (c : Cursor) (n : Nat) : Cursor :=
  ⟨c.offset + n, c.rest.drop n⟩

def isBlank (c : Char) : Bool :=
  c = ' ' || c = '\t' || c = '\n' || c = '\r'

def Cursor.skipBlank (c : Cursor) : Cursor :=
  c.advance (c.rest.takeWhile isBlank).length

/-! ## Strings -/

/-- The number that a digit of base sixteen stands for. -/
def hexValue? (c : Char) : Option Nat :=
  if c.isDigit then some (c.toNat - '0'.toNat)
  else if 'a' ≤ c ∧ c ≤ 'f' then some (c.toNat - 'a'.toNat + 10)
  else if 'A' ≤ c ∧ c ≤ 'F' then some (c.toNat - 'A'.toNat + 10)
  else none

/-- The number that the first four characters write in base sixteen. -/
def codeUnit? (t : Text) : Option Nat :=
  (t.take 4).foldl (fun n c => n.bind fun n => (hexValue? c).map (n * 16 + ·)) (some 0)

/-- The character that a backslash and `c` stand for. -/
def escaped? : Char → Option Char
  | '"' => some '"'
  | '\\' => some '\\'
  | '/' => some '/'
  | 'b' => some '\x08'
  | 'f' => some '\x0c'
  | 'n' => some '\n'
  | 'r' => some '\r'
  | 't' => some '\t'
  | _ => none

/-- Whether a code unit is the first half of a pair. -/
def isHighSurrogate (n : Nat) : Bool :=
  0xd800 ≤ n && n ≤ 0xdbff

/-- Whether a code unit is the second half of a pair. -/
def isLowSurrogate (n : Nat) : Bool :=
  0xdc00 ≤ n && n ≤ 0xdfff

/-- The code point with the number of a code unit. -/
def ofCodeUnit (n : Nat) : CodePoint :=
  if h : 0xd800 ≤ n ∧ n ≤ 0xdfff then .half ⟨n - 0xd800, by omega⟩ else .char (.ofNat n)

/-- The code point of an escape `\u` at the offset `start`, from the text behind the `u`, and how
many characters the escape has. Two escapes that form a pair are read as one. A string does not end
with the text, so at least one more character has to follow. -/
def readCode (start : Nat) (t : Text) : Except Fault (CodePoint × Nat) :=
  if (t.drop 4).isEmpty then .error (.malformed .badCodeEscape (start + 1))
  else match codeUnit? t with
    | none => .error (.malformed .badCodeEscape (start + 1))
    | some high =>
      let t := t.drop 4
      if isHighSurrogate high && !(t.drop 6).isEmpty && ['\\', 'u'].isPrefixOf t then
        match codeUnit? (t.drop 2) with
        | none => .error (.malformed .badCodeEscape (start + 7))
        | some low =>
          if isLowSurrogate low then
            .ok (.char (.ofNat (0x10000 + (high - 0xd800) * 0x400 + (low - 0xdc00))), 12)
          else .ok (ofCodeUnit high, 6)
      else .ok (ofCodeUnit high, 6)

/-- Reads the rest of a string that began at the offset `start`; `read` holds the code points read
so far, last one first. -/
def readString (start : Nat) (read : WideText) (offset : Nat) (t : Text) : Read WideText :=
  match t with
  | [] => .error (.malformed .unterminatedString start)
  | '"' :: t => .ok (read.reverse, ⟨offset + 1, t⟩)
  | '\\' :: [] => .error (.malformed .unterminatedString start)
  | '\\' :: 'u' :: t =>
    match readCode offset t with
    | .error e => .error e
    | .ok (c, n) => readString start (c :: read) (offset + n) (t.drop (n - 2))
  | '\\' :: c :: t =>
    match escaped? c with
    | none => .error (.malformed .badEscape offset)
    | some e => readString start (.char e :: read) (offset + 2) t
  | c :: t =>
    if c.toNat ≤ 0x1f then .error (.malformed .controlCharacter offset)
    else readString start (.char c :: read) (offset + 1) t
termination_by t.length

/-! ## Numbers -/

/-- The number of characters of a fraction at the start of a text, zero if there is none. -/
def fractionLength : Text → Nat
  | '.' :: t => match (t.takeWhile Char.isDigit).length with
    | 0 => 0
    | n => n + 1
  | _ => 0

/-- The number of characters of an exponent at the start of a text, zero if there is none. -/
def exponentLength : Text → Nat
  | c :: t =>
    if c = 'e' || c = 'E' then
      let sign := match t with
        | '+' :: _ | '-' :: _ => 1
        | _ => 0
      match ((t.drop sign).takeWhile Char.isDigit).length with
      | 0 => 0
      | n => n + sign + 1
    else 0
  | [] => 0

/-- The number that an exponent writes, zero if there is none. -/
def exponentValue : Text → Int
  | _ :: '-' :: digits => - (Text.natural digits : Int)
  | _ :: '+' :: digits => Text.natural digits
  | _ :: digits => Text.natural digits
  | [] => 0

def readNumber (c : Cursor) : Read Json :=
  let negative := c.rest.head? = some '-'
  let t := if negative then c.rest.drop 1 else c.rest
  let digits := if t.head? = some '0' then ['0'] else t.takeWhile Char.isDigit
  if digits.isEmpty then c.fail .expectingValue
  else
    let t := t.drop digits.length
    let fraction := t.take (fractionLength t)
    let t := t.drop fraction.length
    let exponent := t.take (exponentLength t)
    let sign := if negative then 1 else 0
    let c' := c.advance (sign + digits.length + fraction.length + exponent.length)
    if fraction.isEmpty && exponent.isEmpty then
      if maxDigits < digits.length then .error (.integerTooLong digits.length)
      else
        let n : Nat := Text.natural digits
        .ok (.int (if negative then - (n : Int) else n), c')
    else
      let places := fraction.drop 1
      .ok (.decimal (.finite negative (Text.natural (digits ++ places))
        (exponentValue exponent - places.length)), c')

/-! ## Values -/

/-- The values that are written as one word. -/
def words : List (Text × Json) :=
  [("null".toList, .null), ("true".toList, .bool true), ("false".toList, .bool false),
    ("NaN".toList, .decimal .undefined), ("Infinity".toList, .decimal (.infinite false)),
    ("-Infinity".toList, .decimal (.infinite true))]

mutual

/-- Reads a value in which `room` containers may stand one in the other; each step down takes one
from the fuel. -/
def readValue : (fuel room : Nat) → Cursor → Read Json
  | 0, _, c => c.fail .expectingValue
  | fuel + 1, room, c =>
    match c.rest with
    | '"' :: t =>
      match readString c.offset [] (c.offset + 1) t with
      | .error e => .error e
      | .ok (s, c) => .ok (.text s, c)
    | '{' :: _ =>
      match room with
      | 0 => .error (.tooDeep .object)
      | room + 1 =>
        let c := (c.advance 1).skipBlank
        if c.rest.head? = some '}' then .ok (.object [], c.advance 1)
        else readMembers fuel room [] c
    | '[' :: _ =>
      match room with
      | 0 => .error (.tooDeep .array)
      | room + 1 =>
        let c := (c.advance 1).skipBlank
        if c.rest.head? = some ']' then .ok (.array [], c.advance 1)
        else readItems fuel room [] c
    | t =>
      match words.find? fun w => w.1.isPrefixOf t with
      | some w => .ok (w.2, c.advance w.1.length)
      | none => readNumber c

/-- Reads the items of an array from the next one on; `items` holds those before, last one
first. -/
def readItems : (fuel room : Nat) → (items : List Json) → Cursor → Read Json
  | 0, _, _, c => c.fail .expectingValue
  | fuel + 1, room, items, c =>
    match readValue fuel room c with
    | .error e => .error e
    | .ok (item, c) =>
      let c := c.skipBlank
      match c.rest with
      | ']' :: _ => .ok (.array (item :: items).reverse, c.advance 1)
      | ',' :: _ => readItems fuel room (item :: items) (c.advance 1).skipBlank
      | _ => c.fail .expectingComma

/-- Reads the members of an object from the next one on; `members` holds those before, last one
first. -/
def readMembers : (fuel room : Nat) → (members : List (WideText × Json)) → Cursor → Read Json
  | 0, _, _, c => c.fail .expectingValue
  | fuel + 1, room, members, c =>
    match c.rest with
    | '"' :: t =>
      match readString c.offset [] (c.offset + 1) t with
      | .error e => .error e
      | .ok (name, c) =>
        let c := c.skipBlank
        match c.rest with
        | ':' :: _ =>
          match readValue fuel room (c.advance 1).skipBlank with
          | .error e => .error e
          | .ok (value, c) =>
            let c := c.skipBlank
            match c.rest with
            | '}' :: _ => .ok (.object (Keyed.ofLasts ((name, value) :: members).reverse).entries,
                c.advance 1)
            | ',' :: _ => readMembers fuel room ((name, value) :: members) (c.advance 1).skipBlank
            | _ => c.fail .expectingComma
        | _ => c.fail .expectingColon
    | _ => c.fail .expectingName

end

/-- Reads a whole document. Each bracket and each item takes at least one character and at most two
steps down, so the fuel suffices. -/
def readDocument (text : Text) : Except Fault Json :=
  if text.head? = some '\ufeff' then .error (.malformed .byteOrderMark 0)
  else match readValue (2 * text.length + 2) maxNesting (Cursor.skipBlank ⟨0, text⟩) with
    | .error e => .error e
    | .ok (value, c) =>
      let c := c.skipBlank
      if c.rest.isEmpty then .ok value else c.fail .extraData

/-- The value that a document holds. -/
def parse (text : Text) : Except Error Json :=
  match readDocument text with
  | .ok value => .ok value
  | .error (.malformed cause offset) => .error (.at text cause offset)
  | .error (.integerTooLong digits) => .error (.integerTooLong digits)
  | .error (.tooDeep innermost) => .error (.tooDeep innermost)

end Phrasebook.Json
