import Phrasebook.Text.Blank
import Phrasebook.Text.Identifier

/-!
# Tags

A tag stands between square brackets. A name comes first in it, and behind an equals sign there may
be parameters. A name that begins with an at sign is that of an event: the parameters say what to do
then, as a call like `jump(1)`, or are just the arguments of one.
-/

namespace Phrasebook.Styled

structure Tag where
  name : Text
  parameters : Option Text

namespace Tag

/-- The tag with some text between its brackets. An equals sign sets its parameters apart. -/
def ofInside (inside : Text) : Tag :=
  let name := inside.takeWhile (· ≠ '=')
  ⟨name, if name.length < inside.length then some (inside.drop (name.length + 1)) else none⟩

def toText (t : Tag) : Text :=
  '[' :: t.name ++ (t.parameters.map ('=' :: ·)).getD [] ++ [']']

def isEvent (t : Tag) : Bool :=
  t.name.head? = some '@'

/-- What a call is made of besides its name, or the whole text if it is no call. A name alone stands
for a call without arguments. -/
def arguments (call : Text) : Text :=
  let name := call.takeWhile fun c => Text.isWordPart c || c = '.'
  match call.drop name.length with
  | [] => ['(', ')']
  | rest@(c :: behind) =>
    if c = '(' && behind.getLast? = some ')' && !rest.contains '\n' then rest else call

end Tag

/-! ## Pieces -/

inductive Piece
  | plain (t : Text)
  | tag (position : Nat) (t : Tag)

def startsTag (c : Char) : Bool :=
  ('a' ≤ c && c ≤ 'z') || c = '#' || c = '/' || c = '@'

/-- The text between an opening bracket, behind which `t` stands, and the bracket that closes it, if
that makes a tag. -/
def tagInside? (t : Text) : Option Text :=
  let inside := t.takeWhile fun c => c ≠ '[' && c ≠ ']'
  if t.head?.any startsTag && (t.drop inside.length).head? = some ']' then some inside else none

/-- A text, given last character first, as a piece unless it is empty. -/
def Piece.ofRun (run : Text) : List Piece :=
  if run.isEmpty then [] else [.plain run.reverse]

/-- The pieces of a text that begins at a position; `run` holds the plain characters read before
it, last one first. -/
def pieces (position : Nat) (run : Text) : Text → List Piece
  | [] => Piece.ofRun run
  | c :: t =>
    if c = '[' then match tagInside? t with
      | none => pieces (position + 1) (c :: run) t
      | some inside =>
        let slashes := (run.takeWhile (· = '\\')).length
        let piece : Piece :=
          if slashes % 2 = 0 then .tag position (.ofInside inside)
          else .plain ('[' :: inside ++ [']'])
        Piece.ofRun (run.drop slashes) ++ Piece.ofRun (List.replicate (slashes / 2) '\\')
          ++ piece :: pieces (position + inside.length + 2) [] (t.drop (inside.length + 1))
    else pieces (position + 1) (c :: run) t
termination_by t => t.length
decreasing_by all_goals simp only [List.length_cons, List.length_drop]; omega

/-- The text without the backslashes that stand before an opening bracket. -/
def unescape : Text → Text
  | '\\' :: '[' :: t => '[' :: unescape t
  | c :: t => c :: unescape t
  | [] => []

end Phrasebook.Styled
