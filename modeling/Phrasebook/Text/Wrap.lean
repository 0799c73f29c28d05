import Phrasebook.Text.Blank
import Phrasebook.Text.Cluster

/-!
# Wrapping

A text is fitted into lines of so many cells. It is broken between words only; a line that is still
too wide is cut off and ends with an ellipsis.
-/

namespace Phrasebook.Text

/-- The characters that move the cursor and are not shown: bell, backspace, vertical tab, form feed
and carriage return. -/
def isControl (c : Char) : Bool :=
  [7, 8, 11, 12, 13].contains c.toNat

/-- The characters at which a text is taken apart to be measured: the line feed, three of the
information separators, the next line and the separators of lines and paragraphs. -/
def isLineEnd (c : Char) : Bool :=
  [0xa, 0x1c, 0x1d, 0x1e, 0x85, 0x2028, 0x2029].contains c.toNat

/-- The width of the widest line of a text. -/
def lineWidth (t : Text) : Nat :=
  (((cut isLineEnd t).map width).max?).getD 0

/-- What stands for each character of a text: blanks up to the next multiple of eight cells for a
tab, and any other character for itself. `part` holds the text behind the last tab, last character
first, and `cells` the cells before it. -/
def expandTabs (part : Text) (cells : Nat) : Text → List Text
  | [] => []
  | c :: t =>
    if c = '\t' then
      let stop := cells + width (part.reverse ++ [' '])
      let blanks := (8 - stop % 8) % 8
      List.replicate (blanks + 1) ' ' :: expandTabs [] (stop + blanks) t
    else [c] :: expandTabs (c :: part) cells t

/-- The words of a text, each with the blanks behind it, and the first also with those before it. A
text of blanks alone has none. -/
def words (t : Text) : List Text :=
  let lead := t.takeWhile isBlank
  let word := (t.drop lead.length).takeWhile fun c => !isBlank c
  let rest := t.drop (lead.length + word.length)
  let trail := rest.takeWhile isBlank
  if _ : word = [] then []
  else (lead ++ word ++ trail) :: words (rest.drop trail.length)
termination_by t.length
decreasing_by
  rename_i h
  have hw : 0 < word.length := List.length_pos_iff.2 h
  have hle : lead.length + word.length ≤ t.length := by
    have h1 : word.length ≤ (t.drop lead.length).length := (List.takeWhile_prefix _).length_le
    have h2 : lead.length ≤ t.length := (List.takeWhile_prefix _).length_le
    simp only [List.length_drop] at h1
    omega
  simp only [lead, word] at hw hle
  simp only [List.length_drop]
  omega

/-- The text without the blanks at its end. -/
def stripEnd (t : Text) : Text :=
  (t.reverse.dropWhile isBlank).reverse

/-- Lines of words, the line begun and its number of cells, each with the last part first. -/
structure Lines where
  done : List Text := []
  line : List Text := []
  cells : Nat := 0

/-- Puts a word on the line begun if it fits there, or else on a new one, unless no word is before
it. -/
def Lines.add (limit : Nat) (l : Lines) (word : Text) : Lines :=
  if l.cells + width (stripEnd word) ≤ limit || l.line.isEmpty then
    ⟨l.done, word :: l.line, l.cells + width word⟩
  else ⟨l.line.reverse.flatten :: l.done, [word], width word⟩

/-- The lines of a text without line feeds. -/
def wrapLine (limit : Nat) (t : Text) : List Text :=
  match words t with
  | [] => [t]
  | ws =>
    let l := ws.foldl (Lines.add limit) {}
    (l.line.reverse.flatten :: l.done).reverse

/-- The line without as many blanks at its end as it has characters past the limit. -/
def trimEnd (limit : Nat) (t : Text) : Text :=
  let blanks := t.length - (stripEnd t).length
  t.take (t.length - min blanks (t.length - limit))

/-- The text, cut off with an ellipsis if it is too wide. -/
def ellipsize (limit : Nat) (t : Text) : Except CropFault Text :=
  if width t ≤ limit then .ok t
  else if limit = 0 then .ok []
  else (crop (limit - 1) t).map (· ++ ['…'])

end Phrasebook.Text
