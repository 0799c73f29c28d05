import Phrasebook.Expression.Grammar
import Phrasebook.Expression.Lexer

/-!
# Literals

A literal is an expression that stands for itself: a constant, a number with a sign, the sum of a
real and an imaginary number, or a tuple, set or dictionary of literals.
-/

namespace Phrasebook.Expression

/-! ## Reading an expression -/

/-- The message that goes before any other for a place in some line: a token that is refused comes
first, and so does a bracket of an earlier line that is never closed. -/
def Tokens.urgent? (label : Text) (tokens : Tokens) (line : Nat) : Option Text := do
  let h ← tokens.halt
  if h.final then return h.message
  let b ← h.inside
  if b.line < line then return label ++ b.unclosed
  none

/-- The message for a mistake. The label goes before what the grammar finds. A bracket that is never
closed goes unnoticed if the end was seen before. -/
def Tokens.message (label : Text) (tokens : Tokens) : Mistake → Text
  | .halt h => if h.final then h.message else label ++ h.message
  | .grammar message reach => (urgent? reach).getD (label ++ message)
  | .field message reach => (urgent? reach).getD message
where
  urgent? (reach : Nat) : Option Text := do
    let t ← tokens.read[reach - 1]?
    tokens.urgent? label (if t.seesEnd then 0 else t.line)

/-- The message for tokens that make no expression and hold no known mistake. Of the tokens before
the second reading the last is looked at. -/
def Tokens.unknown (label : Text) (tokens : Tokens) (reach : Nat) (r : Reading) : Text :=
  match tokens.read[reach - 1]?.map Token.kind with
  | some .indent => label ++ "unexpected indent".toList
  | some .dedent => label ++ "unexpected unindent".toList
  | _ =>
    let line := (tokens.read[r.reach - 1]?.map Token.line).getD 1
    (tokens.urgent? label line).getD (label ++ "invalid syntax".toList)

/-- The depth to which the rules call one another for each bracket or operator. -/
def ruleDepth : Nat := 32

/-- Reads a text as a rule says. -/
def readBy (templateFault? : (raw : Bool) → Text → Option Template.Fault)
    (rule : Rules → Parser Expression) (label t : Text) : Except Text Expression :=
  let tokens := Tokens.ofText t
  let parser := rule (rules templateFault? (ruleDepth * (tokens.read.size + 2)))
  match ((parser.run tokens).run).run { seeksMistakes := false } with
  | .error m => .error (tokens.message label m)
  | .ok (some e, _) => .ok e
  | .ok (none, first) =>
    match ((parser.run tokens).run).run { seeksMistakes := true, reach := first.reach } with
    | .error m => .error (tokens.message label m)
    | .ok (_, second) => .error (tokens.unknown label first.reach second)

/-- Whether the expression of a field can be read; fields may stand in fields. -/
def checkField : (fuel : Nat) → Text → Except Text Unit
  | 0, _ => .ok ()
  | fuel + 1, t =>
    discard (readBy (Template.fault? (checkField fuel)) Rules.starExpressions
      "f-string: ".toList t)

/-- A whole text is an expression or a tuple without brackets. -/
def whole (r : Rules) : Parser Expression := do
  let e ← Rules.bareTuple (r .expression)
  discard (Parser.many (Parser.kind .newline))
  Parser.kind .finish
  return e

/-- The expression that a text is, or why it is none. -/
def ofText (t : Text) : Except Text Expression :=
  readBy (Template.fault? (checkField t.length)) whole [] t

/-! ## Telling literals -/

def isNumber : Expression → Bool
  | constant (.number _) => true
  | _ => false

def isReal : Expression → Bool
  | constant (.number imaginary) | signed (constant (.number imaginary)) => !imaginary
  | _ => false

/-- What a literal is called that cannot be an item of a set or a key, because it may change. -/
def mutable? : Expression → Option String
  | dict _ => some "dict"
  | set _ | call .. => some "set"
  | tuple items => first items
  | _ => none
where
  first : List Expression → Option String
    | [] => none
    | e :: items => e.mutable?.or (first items)

def unhashable? (e : Expression) : Option Text :=
  e.mutable?.map fun kind => "unhashable type: '".toList ++ kind.toList ++ ['\'']

def noLiteral : Text :=
  "malformed node or string".toList

mutual

/-- Why an expression is no literal. -/
def misfit? : Expression → Option Text
  | constant _ => none
  | tuple items => firstMisfit? items
  | set items => firstMisplaced? items
  | dict entries => firstMisentered? entries
  | call (name t) true => if t = "set".toList then none else some noLiteral
  | signed e => if e.isNumber then none else some noLiteral
  | sum left (constant (.number true)) => if left.isReal then none else some noLiteral
  | _ => some noLiteral

def firstMisfit? : List Expression → Option Text
  | [] => none
  | e :: items => e.misfit?.or (firstMisfit? items)

/-- The same for the items of a set. -/
def firstMisplaced? : List Expression → Option Text
  | [] => none
  | e :: items => (e.misfit?.or e.unhashable?).or (firstMisplaced? items)

/-- The same for the entries of a dictionary, which all need keys. -/
def firstMisentered? : List (Option Expression × Expression) → Option Text
  | [] => none
  | (none, _) :: _ => some (noLiteral ++ ": None".toList)
  | (some key, value) :: entries =>
    ((key.misfit?.or value.misfit?).or key.unhashable?).or (firstMisentered? entries)

end

/-- Why a text is no literal: it is no expression, or one of another kind. -/
inductive Fault
  | unreadable (reason : Text)
  | misfit (reason : Text)

/-- The text is a literal, maybe with blanks before it. -/
def checkLiteral (t : Text) : Except Fault Unit :=
  match ofText (t.dropWhile fun c => c = ' ' || c = '\t') with
  | .error reason => .error (.unreadable reason)
  | .ok e => e.misfit?.elim (.ok ()) (.error <| .misfit ·)

end Phrasebook.Expression
