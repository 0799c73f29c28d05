import Phrasebook.Expression.Basic
import Phrasebook.Expression.Token
import Phrasebook.Text.Identifier
import Std.Data.HashMap

/-!
# Parsers

A parser reads tokens from a place on, or fails and leaves the place as it is; of several parsers
the first that does not fail counts. What a rule of the grammar reads at a place is found out once
and kept. A text that is no expression is read again, and this time the parser looks for known
mistakes at each place: the first one that it meets ends the reading with a message.
-/

namespace Phrasebook.Expression

/-- The rules of the grammar that read an expression. -/
inductive Rule
  | expression
  | starExpression
  | misassigned
  | disjunction
  | conjunction
  | inversion
  | bitOr
  | bitXor
  | bitAnd
  | shift
  | sum
  | term
  | factor
  | awaited
  | primary
  | quoted
  | target
  | starlessTarget
  | targetPrimary
  deriving DecidableEq, Hashable

/-- Why a text is refused. -/
inductive Mistake
  /-- There is no token where one is needed. -/
  | halt (h : Halt)
  /-- The tokens make no expression; so many were looked at. -/
  | grammar (message : Text) (reach : Nat)
  /-- The same for the expression of a field, with a complete message. -/
  | field (message : Text) (reach : Nat)

structure Reading where
  place : Nat := 0
  /-- The number of tokens that were looked at. -/
  reach : Nat := 0
  seeksMistakes : Bool
  kept : Std.HashMap (Rule × Nat) (Option (Expression × Nat)) := ∅

abbrev Parser := ReaderT Tokens (OptionT (StateT Reading (Except Mistake)))

namespace Parser

def goTo (place : Nat) : Parser Unit :=
  modify fun r => { r with place }

/-- The result of a parser, or none with the place unchanged. -/
def attempt {α : Type} (p : Parser α) : Parser (Option α) := do
  let place := (← get).place
  (some <$> p) <|> (do goTo place; return none)

/-- The first parser that does not fail. -/
def first {α : Type} (ps : List (Parser α)) : Parser α := do
  let place := (← get).place
  ps.foldr (fun p rest => p <|> (do goTo place; rest)) failure

/-- The next token, which is only looked at. -/
def peek : Parser Token := do
  let place := (← get).place
  match (← read).read[place]?, (← read).halt with
  | some t, _ =>
    modify fun r => { r with reach := max r.reach (place + 1) }
    return t
  | none, some h => throwThe Mistake (.halt h)
  | none, none => failure

/-- Reads a token of a kind. -/
def token {α : Type} (f : Token.Kind → Option α) : Parser α := do
  match f (← peek).kind with
  | none => failure
  | some a =>
    modify fun r => { r with place := r.place + 1 }
    return a

def kind (k : Token.Kind) : Parser Unit :=
  token fun l => if l = k then some () else none

def sign (s : String) : Parser Unit :=
  kind (.sign s.toList)

def keyword (s : String) : Parser Unit :=
  kind (.name s.toList)

/-- Reads an identifier, which is not told by the style of its letters. -/
def identifier : Parser Text :=
  token fun
    | .name t => if keywords.contains t then none else some (t.map Text.plainLetter)
    | _ => none

/-- Fails where a parser does not, or the other way round; nothing is read. -/
def ahead {α : Type} (p : Parser α) (expected : Bool) : Parser Unit := do
  let place := (← get).place
  let found ← attempt p
  goTo place
  unless found.isSome = expected do failure

def follows {α : Type} (p : Parser α) : Parser Unit :=
  ahead p true

def notFollows {α : Type} (p : Parser α) : Parser Unit :=
  ahead p false

/-- Repeats a parser until it fails, at most so many times. -/
def repeated {α : Type} (p : Parser α) : (fuel : Nat) → Parser (List α)
  | 0 => return []
  | fuel + 1 => do
    match ← attempt p with
    | none => return []
    | some a => return a :: (← repeated p fuel)

def many {α : Type} (p : Parser α) : Parser (List α) := do
  repeated p (← read).read.size

def oneOrMore {α : Type} (p : Parser α) : Parser (List α) :=
  return (← p) :: (← many p)

/-- One thing at least, with commas between them. -/
def list {α : Type} (p : Parser α) : Parser (List α) :=
  return (← p) :: (← many do sign ","; p)

/-- Refuses the text. -/
def refuse {α : Type} (mistake : (reach : Nat) → Mistake) : Parser α := do
  throwThe Mistake (mistake (← get).reach)

def mistake {α : Type} (message : String) : Parser α :=
  refuse (.grammar message.toList)

/-- Looks for a mistake, if it is time for that, and fails unless there is one. Of several kinds of
mistakes only the first whose form is met is looked at. -/
def seek {α : Type} (forms : List (Parser Unit)) : Parser α := do
  if (← get).seeksMistakes then
    discard (attempt (first forms))
  failure

/-- The parser without the search for mistakes. -/
def trusting {α : Type} (p : Parser α) : Parser α := do
  let seeks := (← get).seeksMistakes
  modify fun r => { r with seeksMistakes := false }
  let found ← attempt p
  modify fun r => { r with seeksMistakes := seeks }
  found.elim failure pure

/-- What a rule reads here, found out once. -/
def keeping (rule : Rule) (p : Parser Expression) : Parser Expression := do
  let place := (← get).place
  match (← get).kept[(rule, place)]? with
  | some none => failure
  | some (some (e, place)) =>
    goTo place
    return e
  | none =>
    let found ← attempt p
    modify fun r => { r with kept := r.kept.insert (rule, place) (found.map (·, r.place)) }
    found.elim failure pure

end Parser

end Phrasebook.Expression
