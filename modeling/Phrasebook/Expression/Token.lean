import Phrasebook.Text.Basic

/-!
# Tokens

An expression is read as a sequence of tokens. Line ends and changes of indentation are tokens too,
except inside of brackets.
-/

namespace Phrasebook.Expression

namespace Token

inductive Kind
  /-- A keyword or an identifier. -/
  | name (t : Text)
  | number (t : Text)
  /-- A text between quotes, with the letters before it in lower case. -/
  | quoted (letters body : Text)
  | sign (t : Text)
  | newline
  | indent
  | dedent
  | finish
  deriving DecidableEq

end Token

structure Token where
  kind : Token.Kind
  line : Nat
  /-- The number of brackets that are open behind the token. -/
  depth : Nat
  /-- Whether the end of the text was seen to read the token. -/
  seesEnd : Bool := false

/-- A bracket that is open, and its line. -/
structure Bracket where
  opening : Char
  line : Nat

/-- Why no token can be read. -/
structure Halt where
  message : Text
  /-- Whether the text is refused even if the expression goes wrong before. -/
  final : Bool
  /-- The innermost open bracket. -/
  inside : Option Bracket

/-- The tokens of a text, up to its finish or a halt. -/
structure Tokens where
  read : Array Token
  halt : Option Halt

/-- The words that are no identifiers. -/
def keywords : List Text :=
  ["False", "None", "True", "and", "as", "assert", "async", "await", "break", "class", "continue",
    "def", "del", "elif", "else", "except", "finally", "for", "from", "global", "if", "import",
    "in", "is", "lambda", "nonlocal", "not", "or", "pass", "raise", "return", "try", "while",
    "with", "yield"].map String.toList

def Bracket.unclosed (b : Bracket) : Text :=
  '\'' :: b.opening :: "' was never closed".toList

end Phrasebook.Expression
