import Phrasebook.Expression.Escape

/-!
# Templates

A template is a text with fields between curly brackets, each of which holds an expression. Behind
it there may be an equals sign, a conversion and a form, which may have fields of its own. Outside
of fields a bracket is written twice.
-/

namespace Phrasebook.Expression.Template

/-- Why a template cannot be read. -/
inductive Fault
  | form (message : Text)
  /-- The expression of a field cannot be read; the message is complete. -/
  | field (message : Text)

def refuse {α : Type} (message : String) : Except Fault α :=
  .error (.form message.toList)

def isBracket (c : Char) : Bool :=
  c = '\x7b' || c = '\x7d'

/-- The text up to a bracket, and the text from there on. `plain` holds what was read, last
character first. The name of a character has brackets of its own. -/
def literal (raw : Bool) (plain : Text) : Text → Text × Text
  | '\\' :: t =>
    if raw then literal raw ('\\' :: plain) t
    else match t with
    | 'N' :: '\x7b' :: t =>
      let name := t.takeWhile (· ≠ '\x7d')
      literal raw ((t.take (name.length + 1)).reverse ++ '\x7b' :: 'N' :: '\\' :: plain)
        (t.drop (name.length + 1))
    | 'N' :: c :: t => literal raw (c :: 'N' :: '\\' :: plain) t
    | c :: t =>
      if isBracket c then (('\\' :: plain).reverse, c :: t) else literal raw (c :: '\\' :: plain) t
    | [] => (('\\' :: plain).reverse, [])
  | c :: t => if isBracket c then (plain.reverse, c :: t) else literal raw (c :: plain) t
  | [] => (plain.reverse, [])
termination_by t => t.length
decreasing_by all_goals simp only [List.length_cons, List.length_drop]; omega

/-! ## Expressions of fields -/

/-- What the place stands in where a field is read. -/
structure Surroundings where
  /-- The quote of a text, and whether there are three of it. -/
  quote : Option (Char × Bool) := none
  brackets : List Char := []

def opening : List Char :=
  ['(', '[', '\x7b']

/-- The bracket that opened what a bracket closes. -/
def partner? : Char → Option Char
  | ')' => some '('
  | ']' => some '['
  | '\x7d' => some '\x7b'
  | _ => none

/-- Splits a field behind its expression. `read` holds what was read, last character first. -/
def expression (s : Surroundings) (read : Text) : Text → Except Fault (Text × Text)
  | [] =>
    match s.quote, s.brackets with
    | some _, _ => refuse "f-string: unterminated string"
    | none, b :: _ => .error (.form ("f-string: unmatched '".toList ++ [b, '\'']))
    | none, [] => refuse "f-string: expecting '\x7d'"
  | c :: t =>
    if c = '\\' then refuse "f-string expression part cannot include a backslash"
    else match s.quote with
    | some (q, long) =>
      if c ≠ q then expression s (c :: read) t
      else if !long then expression { s with quote := none } (c :: read) t
      else if [q, q].isPrefixOf t then
        expression { s with quote := none } (c :: c :: c :: read) (t.drop 2)
      else expression s (c :: read) t
    | none =>
      if c = '"' || c = '\'' then
        if [c, c].isPrefixOf t then
          expression { s with quote := some (c, true) } (c :: c :: c :: read) (t.drop 2)
        else expression { s with quote := some (c, false) } (c :: read) t
      else if opening.contains c then
        expression { s with brackets := c :: s.brackets } (c :: read) t
      else if c = '#' then refuse "f-string expression part cannot include '#'"
      else if s.brackets.isEmpty && ['!', '=', '<', '>'].contains c && t.head? = some '=' then
        expression s ('=' :: c :: read) (t.drop 1)
      else if s.brackets.isEmpty && ['!', ':', '\x7d', '='].contains c then
        .ok (read.reverse, c :: t)
      else match partner? c, s.brackets with
        | none, _ => expression s (c :: read) t
        | some _, [] => .error (.form ("f-string: unmatched '".toList ++ [c, '\'']))
        | some p, b :: brackets =>
          if p = b then expression { s with brackets } (c :: read) t
          else
            .error (.form ("f-string: closing parenthesis '".toList
              ++ c :: "' does not match opening parenthesis '".toList ++ [b, '\'']))
termination_by t => t.length
decreasing_by all_goals simp only [List.length_cons, List.length_drop]; omega

/-- The expression of a field, of which the character behind it is given, is read as it stands
between brackets. -/
def checkExpression (check : Text → Except Text Unit) (t : Text) (behind : Char) :
    Except Fault Unit :=
  if t.all [' ', '\t', '\n', '\x0c'].contains then
    if ['!', ':', '='].contains behind then
      .error (.form ("f-string: expression required before '".toList ++ [behind, '\'']))
    else refuse "f-string: empty expression not allowed"
  else (check ('(' :: t ++ [')'])).mapError .field

/-- The text behind the equals sign and the conversion of a field. -/
def conversion (t : Text) : Except Fault Text := do
  let t := match t with
    | '=' :: t => t.dropWhile [' ', '\t', '\n', '\x0b', '\x0c', '\x0d'].contains
    | t => t
  match t with
  | '!' :: c :: t =>
    if ['s', 'r', 'a'].contains c then return t
    else refuse "f-string: invalid conversion character: expected 's', 'r', or 'a'"
  | '!' :: [] => refuse "f-string: expecting '\x7d'"
  | t => return t

/-! ## Fields -/

/-- The depth to which fields may stand in fields. -/
def maxDepth : Nat := 2

mutual

/-- Reads a template, or the form of a field up to the bracket that ends it. -/
def template (check : Text → Except Text Unit) (raw : Bool) :
    (fuel depth : Nat) → Text → Except Fault Text
  | 0, _, t => .ok t
  | fuel + 1, depth, t => do
    let (plain, rest) := literal raw [] t
    let doubled := depth = 0 && match rest with
      | a :: b :: _ => a = b
      | _ => false
    if depth = 0 && !doubled && rest.head? = some '\x7d' then
      refuse "f-string: single '\x7d' is not allowed"
    if !raw then
      if let some m := Escape.textFault? (if doubled then plain ++ rest.take 1 else plain) then
        throw (.form m)
    match rest with
    | [] => if depth = 0 then return [] else refuse "f-string: expecting '\x7d'"
    | c :: t =>
      if doubled then template check raw fuel depth (t.drop 1)
      else if c = '\x7b' then
        template check raw fuel depth (← field check raw fuel depth t)
      else return rest

/-- Reads a field whose first bracket has been read, up to and with the last one. -/
def field (check : Text → Except Text Unit) (raw : Bool) :
    (fuel depth : Nat) → Text → Except Fault Text
  | 0, _, t => .ok t
  | fuel + 1, depth, t => do
    if maxDepth ≤ depth then refuse "f-string: expressions nested too deeply"
    let (inner, rest) ← expression {} [] t
    checkExpression check inner (rest.headD ' ')
    let rest ← match ← conversion rest with
      | ':' :: t => template check raw fuel (depth + 1) t
      | t => pure t
    match rest with
    | '\x7d' :: t => return t
    | _ => refuse "f-string: expecting '\x7d'"

end

/-- Why a template cannot be read. Each step reads at least one character. -/
def fault? (check : Text → Except Text Unit) (raw : Bool) (t : Text) : Option Fault :=
  match template check raw (2 * t.length + 2) 0 t with
  | .ok _ => none
  | .error fault => some fault

end Phrasebook.Expression.Template
