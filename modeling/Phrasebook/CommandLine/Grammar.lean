import Phrasebook.Text.Blank
import Phrasebook.Text.Digit
import Phrasebook.Text.Quoted

/-!
# The grammar of command lines

A command line is a list of words. A word that begins with a dash mentions an option: by one of its
names, by the beginning of a long name that fits no other option, or, for names of one dash and one
letter, run together with others. An option that takes a value takes the next word or what stands
behind an equals sign. All other words are arguments, and so are all words behind a double dash.
-/

namespace Phrasebook.CommandLine

/-- An option: the names by which it is mentioned, and whether a value belongs to it. -/
structure Flag where
  names : List Text
  takesValue : Bool := false
  required : Bool := false
  deriving DecidableEq

namespace Flag

/-- Asks for the help text. -/
def help : Flag :=
  ⟨["-h".toList, "--help".toList], false, false⟩

def label (f : Flag) : Text :=
  List.intercalate ['/'] f.names

end Flag

/-- How many words an argument takes: one, or one and all behind it. -/
inductive Arity
  | one
  | rest
  deriving DecidableEq

structure Argument where
  name : Text
  arity : Arity
  required : Bool

/-- What may stand on a command line, beside the option that asks for help. -/
structure Grammar where
  flags : List Flag
  arguments : List Argument

def Grammar.allFlags (g : Grammar) : List Flag :=
  .help :: g.flags

/-! ## Misuse -/

inductive Misuse
  | ambiguous (word : Text) (names : List Text)
  | valueExpected (flag : Flag)
  | valueUnexpected (flag : Flag) (value : Text)
  | unknownCommand (word : Text) (commands : List Text)
  | missing (names : List Text)
  | unrecognized (words : List Text)

def Misuse.message : Misuse → Text
  | ambiguous word names =>
    "ambiguous option: ".toList ++ word ++ " could match ".toList
      ++ List.intercalate ", ".toList names
  | valueExpected flag => "argument ".toList ++ flag.label ++ ": expected one argument".toList
  | valueUnexpected flag value =>
    "argument ".toList ++ flag.label ++ ": ignored explicit argument ".toList ++ value.quoted
  | unknownCommand word commands =>
    "argument command: invalid choice: ".toList ++ word.quoted ++ " (choose from ".toList
      ++ List.intercalate ", ".toList (commands.map Text.quoted) ++ [')']
  | missing names =>
    "the following arguments are required: ".toList ++ List.intercalate ", ".toList names
  | unrecognized words => "unrecognized arguments: ".toList ++ List.intercalate [' '] words

/-! ## Words -/

/-- How a word mentions an option: by a name, with a text attached to it or not. -/
structure Mention where
  flag : Flag
  name : Text
  attached : Option Text

inductive Word
  | plain (t : Text)
  | separator
  | mention (t : Text) (m : Mention)
  | unknown (t : Text)

def separatorText : Text :=
  "--".toList

def Word.text : Word → Text
  | plain t | mention t _ | unknown t => t
  | separator => separatorText

/-- The text before the first equals sign, and the text behind it. -/
def splitEquals (t : Text) : Text × Option Text :=
  let name := t.takeWhile (· ≠ '=')
  (name, if name.length < t.length then some (t.drop (name.length + 1)) else none)

/-- The options with their names, in order. -/
def namedFlags (flags : List Flag) : List (Text × Flag) :=
  flags.flatMap fun f => f.names.map (·, f)

/-- All ways in which a word mentions an option by less or more than one of its names. -/
def guesses (flags : List Flag) (t : Text) : List Mention :=
  match t with
  | '-' :: '-' :: _ =>
    let (start, value) := splitEquals t
    (namedFlags flags).filterMap fun (name, f) =>
      if start.isPrefixOf name then some ⟨f, name, value⟩ else none
  | _ =>
    (namedFlags flags).filterMap fun (name, f) =>
      if name = t.take 2 then some ⟨f, name, some (t.drop 2)⟩
      else if t.isPrefixOf name then some ⟨f, name, none⟩
      else none

/-- Whether a word is a dash and a decimal number, with a line feed behind it at most. -/
def isNegativeNumber (t : Text) : Bool :=
  match t with
  | '-' :: t =>
    let t := if t.getLast? = some '\n' then t.dropLast else t
    match t.dropWhile Text.isDigit with
    | [] => !t.isEmpty
    | '.' :: fraction => !fraction.isEmpty && fraction.all Text.isDigit
    | _ => false
  | _ => false

/-- What a word is that begins with a dash and is no name of an option. -/
def guess (flags : List Flag) (t : Text) : Except Misuse Word :=
  match guesses flags t with
  | [] => .ok (if isNegativeNumber t || t.contains ' ' then .plain t else .unknown t)
  | [m] => .ok (.mention t m)
  | ms => .error (.ambiguous t (ms.map Mention.name))

/-- What a word before a double dash is. -/
def Word.ofText (flags : List Flag) (t : Text) : Except Misuse Word :=
  let named := namedFlags flags
  match t with
  | '-' :: _ :: _ =>
    match named.lookup t with
    | some f => .ok (.mention t ⟨f, t, none⟩)
    | none => match splitEquals t with
      | (_, none) => guess flags t
      | (name, some value) => match named.lookup name with
        | some f => .ok (.mention t ⟨f, name, some value⟩)
        | none => guess flags t
  | _ => .ok (.plain t)

/-- What the words of a command line are. -/
def readWords (flags : List Flag) : List Text → Except Misuse (List Word)
  | [] => .ok []
  | t :: ts =>
    if t = separatorText then .ok (.separator :: ts.map .plain)
    else do
      let w ← Word.ofText flags t
      return w :: (← readWords flags ts)

/-! ## Mentions -/

/-- The options that one word mentions, the last of which has the text that is left of the word as
its value, or may take the next word. -/
structure Bundle where
  taken : List Flag
  value : Option Text

/-- Takes the text attached to an option apart. Behind the letter of an option that takes no value
stand the letters of others; no text may be attached to the longer names of such an option. -/
def unbundle (flags : List Flag) (flag : Flag) (letter : Bool) (t : Text) : Except Misuse Bundle :=
  if flag.takesValue then .ok ⟨[flag], some t⟩
  else if !letter then .error (.valueUnexpected flag t)
  else match t with
    | [] => .error (.valueUnexpected flag [])
    | c :: rest => match (namedFlags flags).lookup ['-', c] with
      | none => .error (.valueUnexpected flag (c :: rest))
      | some next =>
        if rest.isEmpty then .ok ⟨[flag, next], none⟩
        else (unbundle flags next true rest).map fun b => { b with taken := flag :: b.taken }

/-- Whether a name is a dash and a letter. -/
def isLetterName (name : Text) : Bool :=
  name.drop 1 |>.head?.any (· ≠ '-')

def Mention.bundle (flags : List Flag) (m : Mention) : Except Misuse Bundle :=
  match m.attached with
  | none => .ok ⟨[m.flag], none⟩
  | some t => unbundle flags m.flag (isLetterName m.name) t

/-! ## Command lines -/

/-- Why reading a command line ends early. -/
inductive Stop
  | help
  | misuse (m : Misuse)

/-- What a command line holds: options and arguments with the words given to them, and words that
belong to neither, all in order. -/
structure Parsed where
  options : List (Flag × List Text) := []
  arguments : List (Text × List Text) := []
  surplus : List Text := []

namespace Parsed

def addSurplus (p : Parsed) (ts : List Text) : Parsed :=
  { p with surplus := p.surplus ++ ts }

def addArgument (p : Parsed) (a : Argument) (ts : List Text) : Parsed :=
  { p with arguments := p.arguments ++ [(a.name, ts)] }

/-- Adds the options of a word. The value belongs to the one that takes it; a double dash that is
attached as a value counts as no word. -/
def addBundle (p : Parsed) (b : Bundle) (value : Option Text) : Parsed :=
  let words := value.toList.filter (· ≠ separatorText)
  { p with options := p.options ++ b.taken.map fun f => (f, if f.takesValue then words else []) }

def has (p : Parsed) (name : String) : Bool :=
  p.options.any fun o => o.1.names.contains name.toList

/-- The words given to an option where it was mentioned last. -/
def option? (p : Parsed) (name : String) : Option (List Text) :=
  (p.options.reverse.find? fun o => o.1.names.contains name.toList).map Prod.snd

def argument? (p : Parsed) (name : String) : Option (List Text) :=
  p.arguments.lookup name.toList

end Parsed

/-- Gives the next words to an argument. A double dash before or behind its one word is dropped; an
argument that takes all words takes the double dash too. -/
def takeArgument (p : Parsed) (a : Argument) (before : List Text) (t : Text) (ws : List Word) :
    Parsed × List Word :=
  match a.arity with
  | .one => (p.addArgument a [t], match ws with
    | .separator :: ws => ws
    | ws => ws)
  | .rest => (p.addArgument a (before ++ t :: ws.map Word.text), [])

/-- Reads words. Each round reads one word at least, so the number of words is fuel enough. -/
def parseWords (flags : List Flag) : (fuel : Nat) → List Argument → List Word → Parsed →
    Except Stop Parsed
  | 0, _, _, p => .ok p
  | fuel + 1, as, ws, p => match ws, as with
    | [], _ => .ok p
    | .plain t :: ws, a :: as =>
      let (p, ws) := takeArgument p a [] t ws
      parseWords flags fuel as ws p
    | .separator :: .plain t :: ws, a :: as =>
      let (p, ws) := takeArgument p a [separatorText] t ws
      parseWords flags fuel as ws p
    | .mention _ m :: ws, as => match m.bundle flags with
      | .error e => .error (.misuse e)
      | .ok b =>
        let waiting := b.taken.getLast?.filter fun f => f.takesValue && b.value.isNone
        match waiting, ws with
        | some _, .plain t :: ws => parseWords flags fuel as ws (p.addBundle b (some t))
        | some f, _ => .error (.misuse (.valueExpected f))
        | none, ws =>
          if b.taken.contains .help then .error .help
          else parseWords flags fuel as ws (p.addBundle b b.value)
    | w :: ws, as => parseWords flags fuel as ws (p.addSurplus [w.text])

/-- The names of what is required and not there. -/
def Grammar.missing (g : Grammar) (p : Parsed) : List Text :=
  (g.arguments.filter fun a => a.required && (p.arguments.lookup a.name).isNone).map Argument.name
    ++ (g.flags.filter fun f => f.required && !p.options.any (·.1 = f)).map Flag.label

/-- Reads a command line. Words that belong to nothing are kept for the caller to complain about. -/
def Grammar.parse (g : Grammar) (ts : List Text) : Except Stop Parsed :=
  match readWords g.allFlags ts with
  | .error e => .error (.misuse e)
  | .ok ws => match parseWords g.allFlags ws.length g.arguments ws {} with
    | .error e => .error e
    | .ok p => match g.missing p with
      | [] => .ok p
      | names => .error (.misuse (.missing names))

end Phrasebook.CommandLine
