import Phrasebook.Expression.Number
import Phrasebook.Expression.Token
import Phrasebook.Text.Identifier
import Phrasebook.Text.Line
import Phrasebook.Text.Printable
import Phrasebook.Text.Quoted

/-!
# Reading tokens

Tokens are read from the start of a text on, until it ends or a character cannot stand where it
does. Blanks and comments set tokens apart. A line ends with its line feed, unless a bracket is open
or a backslash is before it; the blanks before the first token of a line are its indentation.
-/

namespace Phrasebook.Expression

/-- Where reading stands. -/
structure Lexer where
  rest : Text
  line : Nat := 1
  /-- The open brackets, last one first. -/
  brackets : List Bracket := []
  /-- The columns of the indentations that lines have, last one first, each counted with a tab as
  eight columns and as one. -/
  columns : List (Nat × Nat) := [(0, 0)]
  atLineStart : Bool := true

namespace Lexer

def halt (l : Lexer) (message : Text) (final : Bool) : Halt :=
  ⟨message, final, l.brackets.head?⟩

def refuse {α : Type} (l : Lexer) (message : Text) : Except Halt α :=
  .error (l.halt message true)

def token (l : Lexer) (kind : Token.Kind) : Token :=
  { kind, line := l.line, depth := l.brackets.length }

/-- The text ends too early. -/
def ended {α : Type} (l : Lexer) : Except Halt α :=
  .error (l.halt (match l.brackets with
    | b :: _ => b.unclosed
    | [] => "unexpected EOF while parsing".toList) false)

/-- Goes on behind the backslash at the end of a line. -/
def continueLine (l : Lexer) (rest : Text) : Except Halt Lexer :=
  match rest with
  | '\n' :: [] => l.ended
  | '\n' :: rest => .ok { l with rest, line := l.line + 1 }
  | _ => .error (l.halt "unexpected character after line continuation character".toList false)

/-! ## Indentation -/

def maxTab : Nat := 8

/-- The indentation of a line that has come to some columns, and what follows it. Behind a
backslash it counts as far as it came before. -/
def indentation (fuel : Nat) (l : Lexer) (column narrow continued : Nat) :
    Except Halt (Lexer × Nat × Nat) :=
  match fuel, l.rest with
  | fuel + 1, ' ' :: rest => indentation fuel { l with rest } (column + 1) (narrow + 1) continued
  | fuel + 1, '\t' :: rest =>
    indentation fuel { l with rest } ((column / maxTab + 1) * maxTab) (narrow + 1) continued
  | fuel + 1, '\x0c' :: rest => indentation fuel { l with rest } 0 0 continued
  | fuel + 1, '\\' :: rest => do
    let l ← l.continueLine rest
    indentation fuel l column narrow (if continued = 0 then column else continued)
  | _, _ =>
    if continued = 0 then .ok (l, column, narrow) else .ok (l, continued, continued)

def mixedTabs {α : Type} (l : Lexer) : Except Halt α :=
  .error (l.halt "inconsistent use of tabs and spaces in indentation".toList false)

/-- The tokens for a change of the indentation. -/
def indent (l : Lexer) (column narrow : Nat) : Except Halt (List Token × Lexer) :=
  let (current, currentNarrow) := l.columns.headD (0, 0)
  if column = current then if narrow = currentNarrow then .ok ([], l) else l.mixedTabs
  else if current < column then
    if narrow ≤ currentNarrow then l.mixedTabs
    else .ok ([l.token .indent], { l with columns := (column, narrow) :: l.columns })
  else
    let outer := l.columns.dropWhile fun c => column < c.1
    let dedents := List.replicate (l.columns.length - outer.length) (l.token .dedent)
    match outer with
    | (c, n) :: _ =>
      if c ≠ column then
        .error (l.halt "unindent does not match any outer indentation level".toList false)
      else if n ≠ narrow then l.mixedTabs
      else .ok (dedents, { l with columns := outer })
    | [] => .ok (dedents, l)

/-! ## Names, texts and signs -/

/-- The code point of a character in a message. -/
def codePoint (c : Char) : Text :=
  'U' :: '+' :: (Text.hexDigits 4 c.toNat).map Char.toUpper

def unfit (c : Char) : Text :=
  if Text.isPrintable c then
    "invalid character '".toList ++ c :: "' (".toList ++ codePoint c ++ [')']
  else "invalid non-printable character ".toList ++ codePoint c

/-- The first character of a name that cannot stand there. -/
def misplaced? : Text → Option Char
  | [] => none
  | c :: t =>
    if Text.startsIdentifier c then t.find? fun c => !Text.continuesIdentifier c else some c

/-- The letters that may stand before a quote. -/
def quoteLetters : List Text :=
  ["", "b", "r", "u", "f", "br", "rb", "fr", "rf"].map String.toList

/-- The text up to the quote that ends it and what is behind that, or the number of line feeds
before the line where it cannot go on. `body` holds what was read, last character first. -/
def shortBody (quote : Char) (feeds : Nat) (body : Text) : Text → Except Nat (Text × Text)
  | '\\' :: c :: t =>
    let feeds := if c = '\n' && !t.isEmpty then feeds + 1 else feeds
    shortBody quote feeds (c :: '\\' :: body) t
  | c :: t =>
    if c = quote then .ok (body.reverse, t)
    else if c = '\n' then .error feeds
    else shortBody quote feeds (c :: body) t
  | [] => .error feeds

/-- The same for a text that three quotes end. -/
def longBody (quote : Char) (body : Text) : Text → Except Nat (Text × Text)
  | '\\' :: c :: t => longBody quote (c :: '\\' :: body) t
  | c :: t =>
    if c = quote && [quote, quote].isPrefixOf t then .ok (body.reverse, t.drop 2)
    else longBody quote (c :: body) t
  | [] => .error ((body.drop 1).count '\n')

/-- Reads a text whose first quote has been read. -/
def quotedText (l : Lexer) (letters : Text) (quote : Char) (rest : Text) :
    Except Halt (List Token × Lexer) :=
  let long := [quote, quote].isPrefixOf rest
  match if long then longBody quote [] (rest.drop 2) else shortBody quote 0 [] rest with
  | .ok (body, rest) =>
    .ok ([l.token (.quoted letters body)], { l with rest, line := l.line + body.count '\n' })
  | .error feeds =>
    l.refuse ((if long then "unterminated triple-quoted string literal" else
      "unterminated string literal").toList ++ " (detected at line ".toList
      ++ Text.decimal (l.line + feeds) ++ [')'])

/-- Reads a name, or a text with letters before its quote. -/
def name (l : Lexer) : Except Halt (List Token × Lexer) :=
  let word := l.rest.takeWhile Number.isNamePart
  let rest := l.rest.drop word.length
  let letters := word.map Char.toLower
  match rest with
  | c :: behind =>
    if (c = '"' || c = '\'') && quoteLetters.contains letters then l.quotedText letters c behind
    else plain word rest
  | [] => plain word rest
where
  plain (word rest : Text) : Except Halt (List Token × Lexer) :=
    match misplaced? word with
    | some c => l.refuse (unfit c)
    | none => .ok ([l.token (.name word)], { l with rest })

/-- The signs of more than one character, longer ones first. -/
def longSigns : List Text :=
  ["**=", "//=", ">>=", "<<=", "...", "!=", "%=", "&=", "**", "*=", "+=", "-=", "->", "//", "/=",
    ":=", "<<", "<=", "<>", "==", ">=", ">>", "@=", "^=", "|="].map String.toList

/-- The brackets and what closes them. -/
def pairs : List (Char × Char) :=
  [('(', ')'), ('[', ']'), ('\x7b', '\x7d')]

/-- The most brackets that may be open at a time. -/
def maxDepth : Nat := 200

def close (l : Lexer) (c : Char) (rest : Text) : Except Halt (List Token × Lexer) :=
  match l.brackets with
  | [] => l.refuse ("unmatched '".toList ++ [c, '\''])
  | b :: brackets =>
    if pairs.contains (b.opening, c) then
      let l := { l with rest, brackets }
      .ok ([l.token (.sign [c])], l)
    else
      let place := if b.line = l.line then [] else " on line ".toList ++ Text.decimal b.line
      l.refuse ("closing parenthesis '".toList
        ++ c :: "' does not match opening parenthesis '".toList ++ b.opening :: '\'' :: place)

def sign (l : Lexer) (c : Char) (rest : Text) : Except Halt (List Token × Lexer) :=
  match longSigns.find? (·.isPrefixOf l.rest) with
  | some s => .ok ([l.token (.sign s)], { l with rest := l.rest.drop s.length })
  | none =>
    if pairs.any (·.1 = c) then
      if maxDepth ≤ l.brackets.length then l.refuse "too many nested parentheses".toList
      else
        let l := { l with rest, brackets := ⟨c, l.line⟩ :: l.brackets }
        .ok ([l.token (.sign [c])], l)
    else if pairs.any (·.2 = c) then l.close c rest
    else if Text.isPrintable c then .ok ([l.token (.sign [c])], { l with rest })
    else l.refuse (unfit c)

/-! ## Tokens -/

/-- Reads the next tokens; there may be none yet before the text ends. -/
def step (l : Lexer) : Except Halt (List Token × Lexer) :=
  match l.rest with
  | [] => if l.brackets.isEmpty then .ok ([l.token .finish], l) else l.ended
  | c :: rest =>
    if [' ', '\t', '\x0c'].contains c then .ok ([], { l with rest })
    else if c = '#' then .ok ([], { l with rest := rest.dropWhile (· ≠ '\n') })
    else if c = '\n' then
      let feed := { l with rest, line := l.line + 1, atLineStart := true }
      .ok (if l.brackets.isEmpty && !l.atLineStart then [l.token .newline] else [], feed)
    else if c = '\\' then (([], ·)) <$> l.continueLine rest
    else if c = '"' || c = '\'' then l.quotedText [] c rest
    else if c.isDigit || c = '.' && rest.head?.any Char.isDigit then
      match Number.after l.rest with
      | .ok rest =>
        let digits := l.rest.take (l.rest.length - rest.length)
        .ok ([l.token (.number digits)], { l with rest })
      | .error message => l.refuse message
    else if Number.isNamePart c then l.name
    else l.sign c rest

/-- Whether a token that is written in some length is known only by what follows it. -/
def needsMore (length : Nat) : Token.Kind → Bool
  | .quoted letters _ => length = letters.length + 2
  | .sign _ => length < 3
  | _ => true

/-- Reads the next tokens and notes whether the end of the text was seen. -/
def notedStep (l : Lexer) : Except Halt (List Token × Lexer) := do
  let (tokens, next) ← l.step
  let noted (t : Token) : Token :=
    { t with seesEnd := next.rest.isEmpty && needsMore l.rest.length t.kind }
  return (tokens.map noted, next)

/-- Reads the next tokens, at the start of a line with the change of its indentation. A line without
a token has none, nor has one that begins inside of brackets. -/
def next (l : Lexer) : Except Halt (List Token × Lexer) :=
  if !l.atLineStart then l.notedStep
  else do
    let (l, column, narrow) ← indentation (l.rest.length + 1) l 0 0 0
    if l.rest.head?.any (fun c => c = '#' || c = '\n') then
      ({ l with rest := l.rest.dropWhile (· ≠ '\n') }).step
    else
      let l := { l with atLineStart := false }
      if l.brackets.isEmpty then l.indent column narrow else .ok ([], l)

/-- Reads all tokens; `read` holds those before. Each step reads a character or begins a line. -/
def readAll (read : Array Token) : (fuel : Nat) → Lexer → Tokens
  | 0, _ => ⟨read, none⟩
  | fuel + 1, l => match l.next with
    | .error halt => ⟨read, some halt⟩
    | .ok (tokens, l) =>
      let read := read ++ tokens
      if tokens.any (·.kind = .finish) then ⟨read, none⟩ else readAll read fuel l

end Lexer

def Tokens.ofText (t : Text) : Tokens :=
  Lexer.readAll #[] (2 * t.length + 2) { rest := t.withLineFeeds }

end Phrasebook.Expression
