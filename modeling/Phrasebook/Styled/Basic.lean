import Phrasebook.Expression.Literal
import Phrasebook.Styled.Emoji
import Phrasebook.Styled.Span
import Phrasebook.Styled.Tag
import Phrasebook.Text.Quoted

/-!
# Reading styled texts

A text for the screen may hold tags in square brackets, as in `[bold]word[/bold]`, and names of
emoji. A tag opens a style until it is closed by name or by `[/]`, or until the text ends; it is not
shown itself. A backslash before a bracket takes away its meaning, and two stand for one. The
arguments that a tag gives for an event are shown nowhere, but when it is closed they must make a
literal.
-/

namespace Phrasebook

namespace Styled

/-- Why a text cannot be shown. -/
inductive Fault
  | unmatched (tag : Tag) (position : Nat)
  | nothingOpen (position : Nat)
  /-- The arguments in the parameters of a tag are no expression. -/
  | unreadable (arguments parameters reason : Text)
  /-- They are an expression of a wrong kind. -/
  | misfit (parameters reason : Text)
  | emptyShare
  /-- A part of it that does not fit cannot be cut. -/
  | uncut (fault : Text.CropFault)

def Fault.message : Fault → Text
  | unmatched tag position =>
    "closing tag '".toList ++ tag.toText ++ "' at position ".toList ++ Text.decimal position
      ++ " doesn't match any open tag".toList
  | nothingOpen position =>
    "closing tag '[/]' at position ".toList ++ Text.decimal position
      ++ " has nothing to close".toList
  | unreadable arguments parameters reason =>
    "error parsing ".toList ++ Text.quoted arguments ++ " in ".toList ++ Text.quoted parameters
      ++ "; ".toList ++ reason
  | misfit parameters reason =>
    "error parsing ".toList ++ Text.quoted parameters ++ "; ".toList ++ reason
  | emptyShare => "invalid literal for int() with base 10: ''".toList
  | uncut fault => fault.message

/-- A styled text as far as it is read: what is shown, last character first, the spans of the tags
that are closed, and the open tags with the offsets at which they were opened, last one first. -/
structure Reading where
  shown : Text := []
  spans : List Span := []
  opened : List (Nat × Tag) := []

/-- The style that a tag describes. -/
def Tag.style (t : Tag) : Text :=
  t.name ++ (t.parameters.map (' ' :: ·)).getD []

def nameOf (t : Text) : Except Fault Text :=
  (Style.canonicalName t).mapError fun _ => .emptyShare

/-- Ends a tag here that was opened at an offset. -/
def Reading.close (r : Reading) (start : Nat) (tag : Tag) : Reading :=
  { r with spans := ⟨start, r.shown.length, tag.style⟩ :: r.spans }

/-- The arguments that a tag gives for an event are a literal. -/
def Tag.check (t : Tag) : Except Fault Unit :=
  match t.parameters.filter fun p => t.isEvent && !p.isEmpty with
  | none => .ok ()
  | some p =>
    let arguments := Tag.arguments (Text.strip p)
    (Expression.checkLiteral arguments).mapError fun
      | .unreadable reason => .unreadable arguments p reason
      | .misfit reason => .misfit p reason

/-- Closes the last open tag of a name, or without a name the last of all. -/
def Reading.closeTag (r : Reading) (position : Nat) (tag : Tag) (name : Text) :
    Except Fault Reading := do
  if name.isEmpty then match r.opened with
    | [] => throw (.nothingOpen position)
    | (start, last) :: opened =>
      last.check
      return { r.close start last with opened }
  else
    let name ← nameOf name
    match r.opened.find? (·.2.name = name) with
    | none => throw (.unmatched tag position)
    | some (start, last) =>
      last.check
      return { r.close start last with opened := r.opened.eraseP (·.2.name = name) }

def Reading.openTag (r : Reading) (tag : Tag) : Except Fault Reading := do
  let name ← nameOf tag.name
  return { r with opened := (r.shown.length, { tag with name }) :: r.opened }

def Reading.read (r : Reading) : Piece → Except Fault Reading
  | .plain t =>
    let shown := (withEmoji (unescape t)).filter fun c => !Text.isControl c
    .ok { r with shown := shown.reverse ++ r.shown }
  | .tag position tag => match tag.name with
    | '/' :: name => r.closeTag position tag (Text.strip name)
    | _ => r.openTag tag

/-- The styled text that a text gives. Tags that are still open end with it. -/
def ofText (t : Text) : Except Fault Styled := do
  let r ← (pieces 0 [] t).foldlM Reading.read {}
  let r := r.opened.foldl (fun r (start, tag) => r.close start tag) r
  return ⟨r.shown.reverse, r.spans⟩

end Styled

end Phrasebook
