import Phrasebook.Publication
import Phrasebook.Styled.Basic

/-!
# The table of a publication

The table lists the pages of a publication with the numbers of their glosses and replacements. It is
drawn in a frame and is at most eighty cells wide. When it would be wider, the widest columns that
may be broken give way first, down to the next widest and so on; the column of languages keeps its
width. The codes of languages and the names of pages are styled texts.
-/

namespace Phrasebook.SummaryTable

structure Column where
  title : Text
  alignment : Styled.Alignment
  /-- Whether the column may be made narrower than its texts. -/
  breaks : Bool
  /-- The blank cells before and behind each text. -/
  before : Nat
  behind : Nat

def columns : List Column :=
  [⟨"Language".toList, .left, false, 0, 1⟩, ⟨"Page".toList, .left, true, 1, 1⟩,
    ⟨"Translations".toList, .right, true, 1, 1⟩, ⟨"Replacements".toList, .right, true, 1, 0⟩]

/-- The cells of a screen line, and those of it that the frame takes. -/
def screenWidth : Nat := 80

def frameWidth : Nat := 5

/-! ## Widths -/

/-- The width of a column that has `limit` cells at most and holds the given texts. -/
def naturalWidth (limit : Nat) (c : Column) (texts : List Text) : Nat :=
  let margin := c.before + c.behind
  let cellWidth (t : Text) : Nat :=
    if limit ≤ margin then limit
    else min limit (margin + Text.lineWidth t)
  ((texts.map cellWidth).max?).getD 0

/-- The quotient rounded to the nearest number, a half to the even one. -/
def roundDiv (n d : Nat) : Nat :=
  let q := n / d
  let twice := 2 * (n % d)
  if twice < d then q else if d < twice then q + 1 else q + q % 2

/-- Takes `total` cells away from the chosen widths in equal shares, at most `most` from each; there
are `count` of them left to take from. -/
def share (most : Nat) : (total count : Nat) → List (Nat × Bool) → List Nat
  | _, _, [] => []
  | total, count, (w, chosen) :: ws =>
    if chosen && 0 < count then
      let taken := min most (roundDiv total count)
      (w - taken) :: share most (total - taken) (count - 1) ws
    else w :: share most total count ws

/-- Makes the widest columns that may break narrower until the widths fit. Each round takes at least
one cell away, which bounds the rounds by the sum of the widths. -/
def collapse (limit : Nat) (breaks : List Bool) : (fuel : Nat) → List Nat → List Nat
  | 0, widths => widths
  | fuel + 1, widths =>
    let excess := Text.total widths - limit
    let breakable := (widths.zip breaks).filterMap fun (w, b) => if b then some w else none
    let widest := breakable.max?.getD 0
    let next := (breakable.filter (· ≠ widest)).max?.getD 0
    if excess = 0 || widest = 0 then widths
    else
      let chosen := (widths.zip breaks).map fun (w, b) => (w, b && w = widest)
      let most := min excess (widest - next)
      collapse limit breaks fuel (share most excess (chosen.countP (·.2)) chosen)

/-- The widths of columns that hold the given texts. -/
def columnWidths (texts : List (List Text)) : List Nat :=
  let limit := screenWidth - frameWidth
  let natural := columns.zipWith (naturalWidth limit) texts
  if Text.total natural ≤ limit then natural
  else
    let narrowed := collapse limit (columns.map Column.breaks) (Text.total natural) natural
    (narrowed.zip (columns.zip texts)).map fun (w, c, ts) => naturalWidth w c ts

/-! ## Drawing -/

/-- The lines of a cell that has room for so many cells of the screen. -/
def layOut (room : Nat) (c : Column) (cell : Styled) : Except Styled.Fault (List Styled) :=
  let lines := cell.lines.flatMap fun line =>
    if c.breaks then line.expandTabs.wrapLine room else [line.expandTabs]
  lines.mapM fun line => (line.align room c.alignment).mapError .uncut

/-- Lines that fill a number of cells. -/
def fillLines (cells : Nat) (lines : List ScreenLine) : Except Styled.Fault (List ScreenLine) :=
  lines.mapM fun line => (line.fill cells).mapError .uncut

/-- The lines of a cell in a column of some width, drawn; none if the blanks around it fill the
column. They are filled once without those blanks and once with them. -/
def drawCell (width : Nat) (c : Column) (cell : Styled) :
    Except Styled.Fault (List ScreenLine) := do
  let room := width - (c.before + c.behind)
  if room = 0 then return []
  let lines ← layOut room c cell
  if !lines.all Styled.isUsable then throw .emptyShare
  let drawn ← fillLines room (lines.map Styled.segments)
  fillLines width (drawn.map fun line =>
    [List.replicate c.before ' '] ++ line ++ [List.replicate c.behind ' '])

/-- The lines of a row, of which there is one at least. When all its cells are drawn, each is filled
again, and those that are shorter than others end with blank lines. -/
def drawRow (widths : List Nat) (cells : List Styled) : Except Styled.Fault (List ScreenLine) := do
  let drawn ← (widths.zip (columns.zip cells)).mapM fun (w, c, s) => drawCell w c s
  let filled ← (widths.zip drawn).mapM fun (w, lines) => fillLines w lines
  let height := (filled.map List.length).foldl max 1
  return (List.range height).map fun i =>
    let parts := (widths.zip filled).map fun (w, lines) => lines.getD i [List.replicate w ' ']
    [['│']] ++ List.intercalate [['│']] parts ++ [['│']]

/-- A line of the frame. -/
def rule (left joint right : Char) (widths : List Nat) : Text :=
  [left] ++ List.intercalate [joint] (widths.map (List.replicate · '─')) ++ [right]

/-- The cells of each row, that of the titles first. The texts are read column by column. -/
def rowsOf (pages : List WrittenPage) : Except Styled.Fault (List (List Styled)) := do
  let codes ← pages.mapM fun p => Styled.ofText p.code
  let names ← pages.mapM fun p => Styled.ofText p.path.name
  let number (n : Nat) : Styled := .plain (Text.decimal n)
  let row (p : WrittenPage) (code name : Styled) : List Styled :=
    [code, name, number p.glosses, number p.replacements]
  return columns.map (Styled.plain ·.title)
    :: (pages.zip (codes.zip names)).map fun (p, code, name) => row p code name

def title (p : Publication) : Text :=
  "Localized pages (".toList ++ Text.decimal p.phrases ++ " patterns)".toList

/-- The table of a publication, each line of it ended. No line is wider than the screen. -/
def render (p : Publication) : Except Styled.Fault Text := do
  let rows ← rowsOf p.pages
  let texts := (List.range columns.length).map fun i => rows.filterMap fun row =>
    row[i]?.map Styled.text
  let widths := columnWidths texts
  let width := Text.total widths + frameWidth
  let title ← (Styled.align width .center (.plain (title p))).mapError .uncut
  let drawn ← rows.mapM (drawRow widths)
  let lines : List ScreenLine :=
    [[title.text], [rule '╭' '┬' '╮' widths]] ++ (drawn.take 1).flatten
      ++ [[rule '├' '┼' '┤' widths]] ++ (drawn.drop 1).flatten ++ [[rule '╰' '┴' '╯' widths]]
  let shown ← lines.mapM fun line => (line.limit screenWidth).mapError .uncut
  return shown.flatMap fun line => line.flatten ++ ['\n']

end Phrasebook.SummaryTable
