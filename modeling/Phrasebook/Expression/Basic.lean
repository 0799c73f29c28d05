import Phrasebook.Text.Basic

/-!
# Expressions

Of an expression only that is kept which tells whether it is a literal, and what messages call it.
-/

namespace Phrasebook

inductive Expression.Constant
  | nothing
  | truth (b : Bool)
  | ellipsis
  | number (imaginary : Bool)
  | text
  | bytes
  deriving DecidableEq

/-- The kinds of expressions that are never literals. -/
inductive Expression.Kind
  | member
  | lambda
  | operation
  | conditional
  | generator
  | setComprehension
  | dictComprehension
  | yield
  | await
  | assignment
  /-- A text with fields for the values of expressions. -/
  | template
  deriving DecidableEq

inductive Expression
  | name (t : Text)
  | constant (c : Expression.Constant)
  | tuple (items : List Expression)
  | set (items : List Expression)
  /-- A dictionary; an entry without a key stands for those of another one. -/
  | dict (entries : List (Option Expression × Expression))
  | starred (e : Expression)
  /-- An expression with a plus or a minus before it. -/
  | signed (e : Expression)
  /-- A sum or difference. -/
  | sum (left right : Expression)
  | comparison (left : Expression) (membership : Bool)
  | call (function : Expression) (plain : Bool)
  | other (kind : Expression.Kind)
  deriving Inhabited

namespace Expression

def Constant.title : Constant → String
  | nothing => "None"
  | truth b => if b then "True" else "False"
  | ellipsis => "ellipsis"
  | number _ | text | bytes => "literal"

def Kind.title : Kind → String
  | member => "attribute"
  | lambda => "lambda"
  | operation => "expression"
  | conditional => "conditional expression"
  | generator => "generator expression"
  | setComprehension => "set comprehension"
  | dictComprehension => "dict comprehension"
  | yield => "yield expression"
  | await => "await expression"
  | assignment => "named expression"
  | template => "f-string expression"

/-- What messages call an expression. -/
def title : Expression → String
  | name _ => "name"
  | constant c => c.title
  | tuple _ => "tuple"
  | set _ => "set display"
  | dict _ => "dict literal"
  | starred _ => "starred"
  | signed _ | sum .. => "expression"
  | comparison .. => "comparison"
  | call .. => "function call"
  | other kind => kind.title

mutual

/-- The first part of an expression to which no value can be assigned. Where a loop is written
`for a in b`, the assignment is to `a` alone. -/
def unassignable? : Expression → Option Expression
  | name _ | other .member => none
  | tuple items => firstUnassignable? items
  | starred e => e.unassignable?
  | comparison left true => left.unassignable?
  | comparison _ false => none
  | e => some e

def firstUnassignable? : List Expression → Option Expression
  | [] => none
  | e :: items => e.unassignable?.or (firstUnassignable? items)

end

end Expression

end Phrasebook
