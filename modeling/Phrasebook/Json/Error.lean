import Phrasebook.Text.Basic

/-!
# Errors in JSON documents

A malformed document is refused at an offset, which a message also gives as a line and a column,
both counted from one.
-/

namespace Phrasebook.Json

/-- What a document lacks, or should not hold, at the offset where reading stops. -/
inductive Cause
  | expectingValue
  | expectingName
  | expectingColon
  | expectingComma
  | extraData
  | unterminatedString
  | controlCharacter
  | badEscape
  | badCodeEscape
  | byteOrderMark
  deriving DecidableEq

/-- What holds other values. -/
inductive Container
  | array
  | object
  deriving DecidableEq

inductive Error
  | malformed (cause : Cause) (line column offset : Nat)
  | integerTooLong (digits : Nat)
  /-- Too many containers stand one in the other. -/
  | tooDeep (innermost : Container)
  deriving DecidableEq

/-- The most digits that an integer may have. -/
def maxDigits : Nat := 4300

/-- The most containers that may stand one in the other. The runtime bounds the depth of all calls
together; so many are left for a document when the program reads it. -/
def maxNesting : Nat := 988

def Cause.message : Cause → Text
  | .expectingValue => "Expecting value".toList
  | .expectingName => "Expecting property name enclosed in double quotes".toList
  | .expectingColon => "Expecting ':' delimiter".toList
  | .expectingComma => "Expecting ',' delimiter".toList
  | .extraData => "Extra data".toList
  | .unterminatedString => "Unterminated string starting at".toList
  | .controlCharacter => "Invalid control character at".toList
  | .badEscape => "Invalid \\escape".toList
  | .badCodeEscape => "Invalid \\uXXXX escape".toList
  | .byteOrderMark => "Unexpected UTF-8 BOM (decode using utf-8-sig)".toList

def Container.name : Container → Text
  | .array => "array".toList
  | .object => "object".toList

def Error.message : Error → Text
  | .malformed cause line column offset =>
    cause.message ++ ": line ".toList ++ Text.decimal line ++ " column ".toList
      ++ Text.decimal column ++ " (char ".toList ++ Text.decimal offset ++ [')']
  | .integerTooLong digits =>
    "Exceeds the limit (".toList ++ Text.decimal maxDigits
      ++ " digits) for integer string conversion: value has ".toList ++ Text.decimal digits
      ++ " digits; use sys.set_int_max_str_digits() to increase the limit".toList
  | .tooDeep innermost =>
    "maximum recursion depth exceeded while decoding a JSON ".toList ++ innermost.name
      ++ " from a unicode string".toList

/-- The error at an offset of a text. -/
def Error.at (text : Text) (cause : Cause) (offset : Nat) : Error :=
  let before := text.take offset
  let column := (before.reverse.takeWhile (· ≠ '\n')).length + 1
  .malformed cause (before.count '\n' + 1) column offset

end Phrasebook.Json
