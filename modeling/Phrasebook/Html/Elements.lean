import Phrasebook.Html.Piece
import Phrasebook.Html.Tag

/-!
# Text inside elements

A page is gone through piece by piece while the names of the open elements are kept, the innermost
one first. Each run of text inside an allowed element is handed to a function, and everything else
is copied.

A closing tag closes the innermost open element of its name, and is noted if that one is not the
innermost of all; with no such element it is ignored and noted.
-/

namespace Phrasebook.Html

/-- What there is to note about a page that is not well formed. -/
inductive Notice
  | misnested (name : Text)
  | stray (name : Text)
  | unterminated (offset : Nat)
  deriving DecidableEq, Repr

/-- The names of allowed elements and of those without a closing tag, in lower case. -/
structure Elements where
  allowed : List Text
  void : List Text

namespace Elements

/-- The elements of a table cell, a link and a heading. -/
def standardAllowed : List Text :=
  ["a", "b", "h3", "td", "th"].map String.toList

def standardVoid : List Text :=
  ["br", "hr", "img", "input", "link", "meta"].map String.toList

def ofNames (allowed void : List Text) : Elements :=
  ⟨allowed.map lower, void.map lower⟩

def standard : Elements :=
  ofNames standardAllowed standardVoid

/-- Whether text inside the open elements is handed to the function. -/
def allows (e : Elements) (stack : List Text) : Bool :=
  stack.any e.allowed.contains

/-- What a tag does to the open elements: nothing for a tag that has no name, closes itself, or is
of an element that never has a closing tag. -/
def effect? (e : Elements) (tag : WideText) : Option TagName :=
  match TagName.ofTag? tag with
  | none => none
  | some t => if isSelfClosing tag || e.void.contains t.name then none else some t

/-- The open elements behind a tag, and what there is to note about it. -/
def track (e : Elements) (stack : List Text) (tag : WideText) : List Text × Option Notice :=
  match e.effect? tag with
  | none => (stack, none)
  | some ⟨false, name⟩ => (name :: stack, none)
  | some ⟨true, name⟩ =>
    if stack.head? = some name then (stack.erase name, none)
    else if stack.contains name then (stack.erase name, some (.misnested name))
    else (stack, some (.stray name))

variable {m : Type → Type} [Monad m]

/-- A run of text behind the open elements. The function never sees an empty run. -/
def mapRun (e : Elements) (f : WideText → m WideText) (stack : List Text) (run : WideText) :
    m WideText :=
  if !run.isEmpty && e.allows stack then f run else pure run

/-- What has been read of a page: the open elements, the output and the notices, last one first. -/
structure State where
  stack : List Text := []
  output : List WideText := []
  notices : List Notice := []

def mapPiece (e : Elements) (f : WideText → m WideText) (s : State) (p : Piece) : m State := do
  let run ← e.mapRun f s.stack p.run
  let (stack, notice) := e.track s.stack p.tag
  pure ⟨stack, p.tag :: run :: s.output, notice.toList ++ s.notices⟩

/-- The page with a function applied to the text of allowed elements, and what there is to note. -/
def mapText (e : Elements) (f : WideText → m WideText) (page : WideText) :
    m (WideText × List Notice) := do
  let p := Pieces.ofText page
  let s ← p.pieces.foldlM (e.mapPiece f) {}
  let last ← e.mapRun f s.stack p.last
  let output := (p.tail :: last :: s.output).reverse.flatten
  let unterminated :=
    if p.tail.isEmpty then [] else [Notice.unterminated (page.length - p.tail.length)]
  pure (output, s.notices.reverse ++ unterminated)

end Elements

def Notice.message : Notice → Text
  | .misnested name => "Recovering from misnested </".toList ++ name ++ ">.".toList
  | .stray name => "Ignoring stray </".toList ++ name ++ ">.".toList
  | .unterminated offset =>
    "Unterminated tag at offset ".toList ++ Text.decimal offset
      ++ ", copying the remainder.".toList

end Phrasebook.Html
