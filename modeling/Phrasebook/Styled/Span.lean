import Phrasebook.ScreenLine
import Phrasebook.Styled.Style

/-!
# Spans

A styled text is a text with spans, each of which gives a style to what lies between two offsets.
It is laid out as a whole, but shown in segments: where a span starts or stops, a segment ends, each
segment is measured by itself, and only the styles of the spans that are left then are used. A span
that loses its characters when a text is taken apart is lost too; one that never had any is not, as
long as the text is whole.
-/

namespace Phrasebook

structure Styled.Span where
  start : Nat
  stop : Nat
  /-- The description of the style. -/
  style : Text

structure Styled where
  text : Text
  spans : List Styled.Span

namespace Styled

/-- The span of what the characters between two offsets make of a span, unless that is nothing. -/
def Span.between? (start stop : Nat) (style : Text) : Option Span :=
  if start < stop then some ⟨start, stop, style⟩ else none

def Span.shift (n : Nat) (p : Span) : Span :=
  { p with start := p.start + n, stop := p.stop + n }

def plain (t : Text) : Styled :=
  ⟨t, []⟩

/-! ## Taking apart -/

def slice (start stop : Nat) (s : Styled) : Styled :=
  ⟨(s.text.take stop).drop start, s.spans.filterMap fun p =>
    Span.between? (max p.start start - start) (min p.stop stop - start) p.style⟩

/-- Slices of the given lengths, the first of which begins at an offset; between any two, `gap`
characters are left out. -/
def slicesFrom (gap start : Nat) : (lengths : List Nat) → Styled → List Styled
  | [], _ => []
  | n :: ns, s => s.slice start (start + n) :: slicesFrom gap (start + n + gap) ns s

/-- The parts of a text that have the given lengths. If there is one only, the text stays whole. -/
def split (gap : Nat) (lengths : List Nat) (s : Styled) : List Styled :=
  if lengths.length ≤ 1 then [s] else s.slicesFrom gap 0 lengths

/-- The lines of a text that may hold line feeds. -/
def lines (s : Styled) : List Styled :=
  s.split 1 ((Text.cut (· = '\n') s.text).map List.length)

/-! ## Changing the text -/

/-- A text of its own for each character; the spans move along. -/
def expand (ts : List Text) (s : Styled) : Styled :=
  let place (n : Nat) : Nat := Text.total ((ts.take n).map List.length)
  ⟨ts.flatten, s.spans.filterMap fun p => Span.between? (place p.start) (place p.stop) p.style⟩

/-- Texts one behind the other, each with its own spans. -/
def join : List Styled → Styled
  | [] => plain []
  | s :: ss =>
    let rest := join ss
    ⟨s.text ++ rest.text, s.spans ++ rest.spans.map (Span.shift s.text.length)⟩

/-- Blanks for the tabs of a line. A span that goes on behind a tab is divided there. -/
def expandTabs (s : Styled) : Styled :=
  if s.text.contains '\t' then
    let lengths := (Text.cut (· = '\t') s.text).map (·.length + 1)
    (join (s.slicesFrom 0 0 lengths)).expand (Text.expandTabs [] 0 s.text)
  else s

/-- Another text between the same spans; if it is shorter, they end with it, and those that would
begin behind it are lost. -/
def withText (t : Text) (s : Styled) : Styled :=
  ⟨t, if t.length < s.text.length then
    (s.spans.filter (·.start < t.length)).map fun p => { p with stop := min p.stop t.length }
  else s.spans⟩

/-- The lines of a text without line feeds, broken so that they fit into a number of cells if that
can be. -/
def wrapLine (limit : Nat) (s : Styled) : List Styled :=
  (s.split 0 ((Text.wrapLine limit s.text).map List.length)).map fun line =>
    line.withText (Text.trimEnd limit line.text)

/-- Where a text stands on its line. -/
inductive Alignment
  | left
  | center
  | right

/-- A line with the spaces around it that fill a number of cells. -/
def pad (cells : Nat) (a : Alignment) (s : Styled) : Styled :=
  let room := cells - Text.width s.text
  let before := match a with
    | .left => 0
    | .center => room / 2
    | .right => room
  let text := List.replicate before ' ' ++ s.text ++ List.replicate (room - before) ' '
  ⟨text, s.spans.map (Span.shift before)⟩

/-- A line that fills a number of cells; it ends with an ellipsis if it would be wider. -/
def align (cells : Nat) (a : Alignment) (s : Styled) : Except Text.CropFault Styled :=
  let s := match a with
    | .left => s
    | .center | .right => s.withText (Text.stripEnd s.text)
  (Text.ellipsize cells s.text).map fun text => (s.withText text).pad cells a

/-! ## Showing -/

/-- The segments of a text between the offsets of a kind. The text begins at an offset, and
`segment` holds what was read of the segment begun, last character first. -/
def segmentsFrom (isSeam : Nat → Bool) (offset : Nat) (segment : Text) : Text → List Text
  | [] => [segment.reverse]
  | c :: t =>
    if isSeam offset then segment.reverse :: segmentsFrom isSeam (offset + 1) [c] t
    else segmentsFrom isSeam (offset + 1) (c :: segment) t

/-- The segments between the offsets where spans start or stop. -/
def segments (s : Styled) : ScreenLine :=
  segmentsFrom (fun n => s.spans.any fun p => p.start = n || p.stop = n) 0 [] s.text

/-- All styles of a text can be used. A description of no style is harmless. -/
def isUsable (s : Styled) : Bool :=
  s.spans.all fun p => !(Style.ofText p.style matches .error .emptyShare)

end Styled

end Phrasebook
