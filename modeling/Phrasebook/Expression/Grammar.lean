import Phrasebook.Expression.Parser
import Phrasebook.Expression.Template

/-!
# The grammar of expressions

Each rule says what an expression of some kind is made of. The rules call one another through a
parameter, `r`, so that the depth of the calls can be bounded; `quoted` reads a text between quotes.
With the rules stand the mistakes that are looked for where they are tried.
-/

namespace Phrasebook.Expression

open Phrasebook.Expression.Parser

/-- What the rules call. -/
structure Rules where
  apply : Rule → Parser Expression
  /-- Why a template cannot be read, without escapes or with them. -/
  templateFault? : (raw : Bool) → Text → Option Template.Fault

instance : CoeFun Rules fun _ => Rule → Parser Expression :=
  ⟨Rules.apply⟩

namespace Rules

variable (r : Rules)

/-! ## Lists -/

/-- Items with commas between them and maybe one at the end. -/
def items (p : Parser Expression) : Parser (List Expression) := do
  let es ← list p
  discard (attempt (sign ","))
  return es

/-- A single item, or a tuple without brackets. -/
def bareTuple (p : Parser Expression) : Parser Expression := do
  let e ← p
  let es ← many do sign ","; p
  match es, ← attempt (sign ",") with
  | [], none => return e
  | _, _ => return .tuple (e :: es)

def assignment : Parser Expression := do
  discard identifier
  sign ":="
  discard (r .expression)
  return .other .assignment

/-- An expression that is not the start of an assignment. -/
def unassigned : Parser Expression := do
  let e ← r .expression
  notFollows (sign ":=")
  return e

def named : Parser Expression :=
  first [r.assignment, r .misassigned, r.unassigned]

def starNamed : Parser Expression :=
  first [do sign "*"; return .starred (← r .bitOr), r.named]

def starred : Parser Expression := do
  sign "*"
  return .starred (← r .expression)

def starExpressions : Parser Expression :=
  bareTuple (r .starExpression)

/-! ## Comprehensions -/

/-- What a loop assigns to. -/
def targets : Parser Unit := do
  discard (list (r .target))
  discard (attempt (sign ","))

def loop : Parser Unit := do
  let head : Parser Unit := do
    discard (attempt (keyword "async"))
    keyword "for"
    r.targets
    keyword "in"
  match ← attempt head with
  | some _ =>
    discard (r .disjunction)
    discard (many do keyword "if"; r .disjunction)
  | none =>
    seek [do
      discard (attempt (keyword "async"))
      keyword "for"
      if let some e := (← r.starExpressions).unassignable? then
        mistake s!"cannot assign to {e.title}"]

def loops : Parser Unit :=
  discard (oneOrMore r.loop)

/-- The mistakes in comprehensions between some opening brackets. -/
def miscomprehended : Parser Expression :=
  let target : Parser Unit :=
    mistake "did you forget parentheses around the comprehension target?"
  seek [
    do
      first [sign "(", sign "\x7b"]
      discard r.starred
      r.loops
      mistake "iterable unpacking cannot be used in comprehension",
    do
      sign "\x7b"
      discard r.starNamed
      sign ","
      discard (items r.starNamed)
      r.loops
      target,
    do
      sign "\x7b"
      discard r.starNamed
      sign ","
      r.loops
      target]

def generator : Parser Expression :=
  first [
    do
      sign "("
      discard (first [r.assignment, r.unassigned])
      r.loops
      sign ")"
      return .other .generator,
    r.miscomprehended]

/-! ## Arguments -/

/-- The arguments of a call, as far as their order matters. -/
structure Arguments where
  /-- The number of those without a name. -/
  positional : Nat
  /-- Whether a dictionary gives names. -/
  unpacked : Bool := false

def misnamed : Parser (Bool × Bool) :=
  seek [
    do
      let word ← first (["True", "False", "None"].map fun w => do keyword w; return w)
      sign "="
      mistake s!"cannot assign to {word}",
    do
      discard identifier
      sign "="
      discard (r .expression)
      r.loops
      mistake "invalid syntax. Maybe you meant '==' or ':=' instead of '='?",
    do
      notFollows do discard identifier; sign "="
      discard (r .expression)
      sign "="
      mistake "expression cannot contain assignment, perhaps you meant \"==\"?"]

/-- An argument with a name: whether it counts as one without, and whether it is a dictionary. -/
def namedArgument : Parser (Bool × Bool) := do
  discard identifier
  sign "="
  discard (r .expression)
  return (false, false)

def namedOrStarred : Parser (Bool × Bool) :=
  first [r.misnamed, r.namedArgument, do discard r.starred; return (true, false)]

def namedOrUnpacked : Parser (Bool × Bool) :=
  first [r.misnamed, r.namedArgument, do sign "**"; discard (r .expression); return (false, true)]

def namedArguments : Parser (List (Bool × Bool)) :=
  first [
    do
      let before ← list r.namedOrStarred
      sign ","
      return before ++ (← list r.namedOrUnpacked),
    list r.namedOrStarred,
    list r.namedOrUnpacked]

def argumentList : Parser Arguments := do
  let count (named : List (Bool × Bool)) (n : Nat) : Arguments :=
    ⟨n + named.countP (·.1), named.any (·.2)⟩
  let positional : Parser Expression := first [
    r.starred,
    do
      let e ← first [r.assignment, r.unassigned]
      notFollows (sign "=")
      return e]
  first [
    do
      let es ← list positional
      let named ← attempt do sign ","; r.namedArguments
      return count (named.getD []) es.length,
    do return count (← r.namedArguments) 0]

def misplacedArguments : Parser Unit :=
  let bare : Parser Unit := mistake "Generator expression must be parenthesized"
  seek [
    do
      discard r.argumentList
      sign ","
      sign "*"
      mistake "iterable argument unpacking follows keyword argument unpacking",
    do
      discard (r .expression)
      r.loops
      sign ","
      discard (attempt (first [discard r.argumentList, do discard (r .expression); r.loops]))
      bare,
    do
      discard identifier
      sign "="
      discard (r .expression)
      r.loops
      mistake "invalid syntax. Maybe you meant '==' or ':=' instead of '='?",
    do
      let before ← r.argumentList
      r.loops
      if 1 < before.positional then bare,
    do
      discard r.argumentList
      sign ","
      discard (r .expression)
      r.loops
      bare,
    do
      let before ← r.argumentList
      sign ","
      discard r.argumentList
      mistake (if before.unpacked then "positional argument follows keyword argument unpacking"
        else "positional argument follows keyword argument")]

def arguments : Parser Unit :=
  first [
    do
      discard r.argumentList
      discard (attempt (sign ","))
      follows (sign ")"),
    r.misplacedArguments]

/-- The brackets of a call and what is between them; whether that is nothing. -/
def callBrackets : Parser Bool := do
  sign "("
  let found ← attempt r.arguments
  sign ")"
  return found.isNone

/-! ## Atoms -/

def yield : Parser Expression := do
  keyword "yield"
  discard (first [do keyword "from"; discard (r .expression),
    discard (attempt r.starExpressions)])
  return .other .yield

def group : Parser Expression :=
  first [
    do
      sign "("
      let e ← first [r.yield, r.named]
      sign ")"
      return e,
    seek [
      do
        sign "("
        discard r.starred
        sign ")"
        mistake "cannot use starred expression here",
      do
        sign "("
        sign "**"
        discard (r .expression)
        sign ")"
        mistake "cannot use double starred expression here"]]

def tuple : Parser Expression := do
  sign "("
  let es ← attempt do
    let e ← r.starNamed
    sign ","
    return e :: ((← attempt (items r.starNamed)).getD [])
  sign ")"
  return .tuple (es.getD [])

def pair : Parser (Option Expression × Expression) := do
  let key ← r .expression
  sign ":"
  return (some key, ← r .expression)

def entry : Parser (Option Expression × Expression) :=
  first [do sign "**"; return (none, ← r .bitOr), r.pair]

/-- A colon of an entry with nothing behind it. -/
def missingValue : Parser Unit := do
  discard (r .expression)
  sign ":"
  follows (first [sign "\x7d", sign ","])
  mistake "expression expected after dictionary key and ':'"

def starredValue : Parser Unit := do
  discard (r .expression)
  sign ":"
  sign "*"
  discard (r .bitOr)
  mistake "cannot use a starred expression in a dictionary value"

/-- The mistakes in entries, which are looked for at any time. -/
def mispaired : Parser Unit :=
  first [
    do
      discard (list r.entry)
      sign ","
      first [
        do
          discard (r .expression)
          notFollows (sign ":")
          mistake "':' expected after dictionary key",
        r.starredValue,
        r.missingValue],
    r.starredValue,
    r.missingValue]

def dict : Parser Expression :=
  first [
    do
      sign "\x7b"
      let es ← attempt do
        let es ← list r.entry
        discard (attempt (sign ","))
        return es
      sign "\x7d"
      return .dict (es.getD []),
    do
      sign "\x7b"
      r.mispaired
      failure]

def set : Parser Expression := do
  sign "\x7b"
  let es ← items r.starNamed
  sign "\x7d"
  return .set es

def dictComprehension : Parser Expression :=
  first [
    do
      sign "\x7b"
      discard r.pair
      r.loops
      sign "\x7d"
      return .other .dictComprehension,
    seek [do
      sign "\x7b"
      sign "**"
      discard (r .bitOr)
      r.loops
      sign "\x7d"
      mistake "dict unpacking cannot be used in dict comprehension"]]

def setComprehension : Parser Expression :=
  first [
    do
      sign "\x7b"
      discard r.named
      r.loops
      sign "\x7d"
      return .other .setComprehension,
    r.miscomprehended]

/-- Texts between quotes that follow one another make one. -/
def joined : (before : Option Expression) → List (Text × Text) → Parser Expression
  | before, [] => return before.getD (.constant .text)
  | before, (letters, body) :: parts => do
    let isBytes := letters.contains 'b'
    let raw := letters.contains 'r' || !body.contains '\\'
    let isTemplate := letters.contains 'f'
    if isBytes && body.any (0x80 ≤ ·.toNat) then
      mistake "bytes can only contain ASCII literal characters"
    let fault :=
      if isTemplate || raw then none
      else if isBytes then Escape.bytesFault? 0 body else Escape.textFault? body
    if let some m := fault then refuse (.grammar m)
    if before.any fun e => (e matches .constant .bytes) ≠ isBytes then
      mistake "cannot mix bytes and nonbytes literals"
    if isTemplate then
      match r.templateFault? raw body with
      | some (.form m) => refuse (.grammar m)
      | some (.field m) => refuse (.field m)
      | none => pure ()
    let part : Expression :=
      if isBytes then .constant .bytes
      else if isTemplate || before matches some (.other _) then .other .template
      else .constant .text
    joined (some part) parts

def quoted : Parser Expression := do
  let parts ← oneOrMore (token fun
    | .quoted letters body => some (letters, body)
    | _ => none)
  r.joined none parts

def number : Parser Expression := do
  let digits ← token fun
    | .number digits => some digits
    | _ => none
  let based := ["0x", "0X"].any fun s => s.toList.isPrefixOf digits
  return .constant (.number (!based && digits.getLast?.any fun c => c = 'j' || c = 'J'))

def atom : Parser Expression :=
  first [
    .name <$> identifier,
    do keyword "True"; return .constant (.truth true),
    do keyword "False"; return .constant (.truth false),
    do keyword "None"; return .constant .nothing,
    r .quoted,
    number,
    do follows (sign "("); first [r.tuple, r.group, r.generator],
    do follows (sign "\x7b"); first [r.dict, r.set, r.dictComprehension, r.setComprehension],
    do sign "..."; return .constant .ellipsis]

/-! ## Operators -/

/-- What may follow a function, an object or the like. -/
def trailer (e : Expression) : Parser Expression :=
  first [
    do
      sign "."
      discard identifier
      return .other .member,
    do
      discard r.generator
      return .call e false,
    do return .call e (← r.callBrackets)]

/-- Repeats a parser on what it reads. -/
def grow (p : Expression → Parser Expression) (e : Expression) : (fuel : Nat) → Parser Expression
  | 0 => return e
  | fuel + 1 => do
    match ← attempt (p e) with
    | none => return e
    | some e => grow p e fuel

def growing (p : Expression → Parser Expression) (e : Expression) : Parser Expression := do
  grow p e (← read).read.size

/-- Operands with operators between them, taken together from the left. -/
def chain (operand : Parser Expression) (operators : List String)
    (join : Expression → Expression → Expression) : Parser Expression := do
  growing (fun left => do
    first (operators.map sign)
    return join left (← operand)) (← operand)

def operation (_ _ : Expression) : Expression :=
  .other .operation

/-- Operands with a keyword between them. -/
def chainOf (operand : Parser Expression) (word : String) : Parser Expression := do
  let e ← operand
  let es ← many do keyword word; operand
  return if es.isEmpty then e else .other .operation

def factor : Parser Expression :=
  let power : Parser Expression := do
    let e ← r .awaited
    match ← attempt do sign "**"; r .factor with
    | none => return e
    | some _ => return .other .operation
  first [
    do
      first [sign "+", sign "-"]
      return .signed (← r .factor),
    do
      sign "~"
      discard (r .factor)
      return .other .operation,
    power]

/-- The operators of comparisons; whether one asks for membership. -/
def comparator : Parser Bool :=
  first ((["==", "!=", "<=", "<", ">=", ">"].map fun s => do sign s; return false)
    ++ [do keyword "not"; keyword "in"; return false,
      do keyword "in"; return true,
      do keyword "is"; keyword "not"; return false,
      do keyword "is"; return false])

def comparison : Parser Expression := do
  let left ← r .bitOr
  match ← many do let c ← comparator; discard (r .bitOr); return c with
  | [] => return left
  | c :: _ => return .comparison left c

def inversion : Parser Expression :=
  first [do keyword "not"; discard (r .inversion); return .other .operation, r.comparison]

/-! ## Functions without a name -/

def parameter (isLast : Parser Unit) (default : Parser Unit) : Parser Unit := do
  discard identifier
  default
  first [sign ",", follows isLast]

def colon : Parser Unit :=
  sign ":"

def default : Parser Unit := do
  sign "="
  discard (first [discard (r .expression), seek [do
    follows (first [sign ")", sign ","])
    mistake "expected default value expression"]])

def plainParameter : Parser Unit :=
  parameter colon (return ())

def defaultParameter : Parser Unit :=
  parameter colon r.default

def anyParameter : Parser Unit :=
  parameter colon (discard (attempt r.default))

/-- The slash behind parameters that go without a name. -/
def slash : Parser Unit := do
  sign "/"
  first [sign ",", follows colon]

def slashPlain : Parser Unit := do
  discard (oneOrMore plainParameter)
  slash

def slashDefault : Parser Unit := do
  discard (many plainParameter)
  discard (oneOrMore r.defaultParameter)
  slash

def wordParameters : Parser Unit :=
  first [
    seek [
      do
        sign "**"
        discard identifier
        sign "="
        mistake "var-keyword argument cannot have default value",
      do
        sign "**"
        discard identifier
        sign ","
        first [discard identifier, sign "*", sign "**", sign "/"]
        mistake "arguments cannot follow var-keyword argument"],
    do
      sign "**"
      plainParameter]

def starParameters : Parser Unit :=
  first [
    seek [
      do
        sign "*"
        first [colon, do sign ","; first [colon, sign "**"]]
        mistake "named arguments must follow bare *",
      do
        sign "*"
        discard identifier
        sign "="
        mistake "var-positional argument cannot have default value",
      do
        sign "*"
        first [plainParameter, sign ","]
        discard (many r.anyParameter)
        sign "*"
        first [plainParameter, sign ","]
        mistake "* argument may appear only once"],
    do
      sign "*"
      plainParameter
      discard (many r.anyParameter)
      discard (attempt wordParameters),
    do
      sign "*"
      sign ","
      discard (oneOrMore r.anyParameter)
      discard (attempt wordParameters),
    wordParameters]

def misparameters : Parser Unit :=
  let slashed : Parser Unit := first [slashPlain, r.slashDefault]
  seek [
    do
      discard (many plainParameter)
      first [r.slashDefault, discard (oneOrMore r.defaultParameter)]
      plainParameter
      mistake "non-default argument follows default argument",
    do
      discard (many plainParameter)
      sign "("
      discard (list identifier)
      discard (attempt (sign ","))
      sign ")"
      mistake "Lambda expression parameters cannot be parenthesized",
    do
      sign "/"
      sign ","
      mistake "at least one argument must precede /",
    do
      slashed
      discard (many r.anyParameter)
      sign "/"
      mistake "/ may appear only once",
    do
      discard (attempt slashed)
      discard (many r.anyParameter)
      sign "*"
      first [sign ",", plainParameter]
      discard (many r.anyParameter)
      sign "/"
      mistake "/ must be ahead of *",
    do
      discard (oneOrMore r.anyParameter)
      sign "/"
      sign "*"
      mistake "expected comma between / and *"]

def parameters : Parser Unit :=
  let rest : Parser Unit := do
    discard (many r.defaultParameter)
    discard (attempt r.starParameters)
  first [
    r.misparameters,
    do
      slashPlain
      discard (many plainParameter)
      rest,
    do
      r.slashDefault
      rest,
    do
      discard (oneOrMore plainParameter)
      rest,
    do
      discard (oneOrMore r.defaultParameter)
      discard (attempt r.starParameters),
    r.starParameters]

def lambda : Parser Expression := do
  keyword "lambda"
  discard (attempt r.parameters)
  colon
  discard (r .expression)
  return .other .lambda

/-! ## Whole expressions -/

def conditional : Parser Expression := do
  discard (r .disjunction)
  keyword "if"
  discard (r .disjunction)
  keyword "else"
  discard (r .expression)
  return .other .conditional

/-- The names that were statements once. -/
def statementNames : List Text :=
  ["print".toList, "exec".toList]

/-- The names that are keywords in some places only. -/
def softKeywords : List Text :=
  ["_".toList, "case".toList, "match".toList]

/-- The name is one of those, or may become one. -/
def isSoftKeyword (t : Text) : Bool :=
  softKeywords.any t.isPrefixOf

def isStatementName : Expression → Bool
  | .name t => statementNames.contains t
  | _ => false

/-- Whether the last token that was read is inside of brackets. -/
def insideBrackets : Parser Bool := do
  let last := (← read).read[(← get).place - 1]?
  return last.any (0 < ·.depth)

def misjoined : Parser Expression :=
  seek [
    do
      notFollows (first [
        do
          discard identifier
          discard (token fun
            | .quoted .. => some ()
            | _ => none),
        token fun
          | .name t => if isSoftKeyword t then some () else none
          | _ => none])
      let e ← r .disjunction
      discard (trusting (first [r.conditional, r .disjunction, r.lambda]))
      if !isStatementName e && (← insideBrackets) then
        mistake "invalid syntax. Perhaps you forgot a comma?",
    do
      discard (r .disjunction)
      keyword "if"
      discard (r .disjunction)
      notFollows (first [keyword "else", colon])
      mistake "expected 'else' after 'if' expression"]

def missingBrackets : Parser Expression :=
  seek [do
    let t ← identifier
    notFollows (sign "(")
    discard r.starExpressions
    if statementNames.contains t then
      let name := String.ofList t
      mistake s!"Missing parentheses in call to '{name}'. Did you mean {name}(...)?"]

def expression : Parser Expression :=
  first [r.misjoined, r.missingBrackets, r.conditional, r .disjunction, r.lambda]

def misassigned : Parser Expression :=
  let ended : Parser Unit := notFollows (first [sign "=", sign ":="])
  seek [
    do
      let e ← r .expression
      sign ":="
      discard (r .expression)
      mistake s!"cannot use assignment expressions with {e.title}",
    do
      discard identifier
      sign "="
      discard (r .bitOr)
      ended
      mistake "invalid syntax. Maybe you meant '==' or ':=' instead of '='?",
    do
      notFollows (first [discard r.tuple, discard r.generator, keyword "True", keyword "None",
        keyword "False"])
      let e ← r .bitOr
      sign "="
      discard (r .bitOr)
      ended
      mistake s!"cannot assign to {e.title} here. Maybe you meant '==' instead of '='?"]

/-! ## Targets of loops -/

def trailerFollows : Parser Unit :=
  follows (first [sign "(", sign "[", sign "."])

def targetPrimary : Parser Expression := do
  let e ← r.atom
  trailerFollows
  growing (fun e => do
    let e ← r.trailer e
    trailerFollows
    return e) e

def starlessTarget : Parser Expression :=
  first [
    do
      discard (r .targetPrimary)
      sign "."
      discard identifier
      notFollows trailerFollows
      return .other .member,
    .name <$> identifier,
    do
      sign "("
      let e ← r .starlessTarget
      sign ")"
      return e,
    do
      sign "("
      let es ← attempt do
        let e ← r .target
        let es ← many do sign ","; r .target
        if es.isEmpty then sign "," else discard (attempt (sign ","))
        return e :: es
      sign ")"
      return .tuple (es.getD [])]

def target : Parser Expression :=
  first [
    do
      sign "*"
      notFollows (sign "*")
      return .starred (← r .target),
    r .starlessTarget]

/-! ## All rules -/

/-- What a rule is made of. -/
def body : Rule → Parser Expression
  | .expression => r.expression
  | .starExpression => first [do sign "*"; return .starred (← r .bitOr), r .expression]
  | .misassigned => r.misassigned
  | .disjunction => chainOf (r .conjunction) "or"
  | .conjunction => chainOf (r .inversion) "and"
  | .inversion => r.inversion
  | .bitOr => chain (r .bitXor) ["|"] operation
  | .bitXor => chain (r .bitAnd) ["^"] operation
  | .bitAnd => chain (r .shift) ["&"] operation
  | .shift => chain (r .sum) ["<<", ">>"] operation
  | .sum => chain (r .term) ["+", "-"] .sum
  | .term => chain (r .factor) ["*", "/", "//", "%", "@"] operation
  | .factor => r.factor
  | .awaited => first [do keyword "await"; discard (r .primary); return .other .await, r .primary]
  | .primary => do growing r.trailer (← r.atom)
  | .quoted => r.quoted
  | .target => r.target
  | .starlessTarget => r.starlessTarget
  | .targetPrimary => r.targetPrimary

end Rules

/-- The rules with calls of the given depth. -/
def rules (templateFault? : (raw : Bool) → Text → Option Template.Fault) : (depth : Nat) → Rules
  | 0 => ⟨fun _ => failure, templateFault?⟩
  | depth + 1 => ⟨fun rule => keeping rule ((rules templateFault? depth).body rule), templateFault?⟩

end Phrasebook.Expression
