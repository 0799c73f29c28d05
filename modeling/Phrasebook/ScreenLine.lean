import Phrasebook.Text.Cluster

/-!
# Lines of the screen

A line of the screen is a row of segments. Each segment is measured and cut by itself, so a line
that has been cut to some width may still be measured wider, and is then cut again wherever it
becomes a part of something else.
-/

namespace Phrasebook

abbrev ScreenLine := List Text

namespace ScreenLine

/-- The number of cells of the segments, each measured by itself. -/
def width (l : ScreenLine) : Nat :=
  Text.total (l.map Text.width)

/-- The first segments of a line, the last of them cut so that they fill a number of cells. -/
def crop : (cells : Nat) → ScreenLine → Except Text.CropFault ScreenLine
  | _, [] => .ok []
  | n, t :: ts =>
    if Text.width t < n then (crop (n - Text.width t) ts).map (t :: ·)
    else (Text.fit n t).map ([·])

/-- The line, cut if it is wider than a number of cells. -/
def limit (cells : Nat) (l : ScreenLine) : Except Text.CropFault ScreenLine :=
  if cells < width l then crop cells l else .ok l

/-- The line, cut or with spaces behind it so that it fills a number of cells. -/
def fill (cells : Nat) (l : ScreenLine) : Except Text.CropFault ScreenLine :=
  if cells < width l then crop cells l
  else .ok (l ++ [List.replicate (cells - width l) ' '])

end ScreenLine

end Phrasebook
