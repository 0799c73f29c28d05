import Phrasebook.Text.Width

/-!
# Clusters

Characters that are shown together make a cluster: one that fills cells, with the ones behind it
that do not, and with those that a joiner takes in. A text is cut between clusters only.

A joiner with nothing before it is a cluster without cells, though the measure of the text lets it
take in the next character. So the clusters of such a text may have other cells than the text
itself, and a text that is too wide may have no place where it can be cut.
-/

namespace Phrasebook.Text

/-- A cluster with its characters and the number of its cells. -/
structure Cluster where
  text : Text
  cells : Nat

/-- The clusters of the text read so far, last one first, each with its last character first; and
what the next character needs to know. -/
structure Clusters where
  read : List Cluster := []
  joined : Bool := false
  last : Option Char := none

namespace Clusters

/-- The clusters with a character added to the last of them, which becomes wider by some cells. -/
def extend (c : Char) (cells : Nat) : List Cluster → List Cluster
  | [] => [⟨[c], cells⟩]
  | k :: ks => ⟨c :: k.text, k.cells + cells⟩ :: ks

def add (ks : Clusters) (c : Char) : Clusters :=
  if ks.joined then { ks with read := extend c 0 ks.read, joined := false }
  else if c = joiner then
    { ks with read := extend c 0 ks.read, joined := !ks.read.isEmpty }
  else if c = pictureSelector then
    ⟨extend c (Measure.widening ks.last) ks.read, false, none⟩
  else if charWidth c = 0 then { ks with read := extend c 0 ks.read }
  else ⟨⟨[c], charWidth c⟩ :: ks.read, false, some c⟩

end Clusters

/-- The clusters of a text in order. -/
def clusters (t : Text) : List Cluster :=
  (t.foldl Clusters.add {}).read.reverse.map fun k => { k with text := k.text.reverse }

/-- The clusters that fill a number of cells. One that would go past them is replaced by a space. -/
def takeCells : (cells : Nat) → List Cluster → Text
  | _, [] => []
  | n, k :: ks =>
    if n = 0 then []
    else if k.cells ≤ n then k.text ++ takeCells (n - k.cells) ks
    else [' ']

/-- Why a text cannot be cut behind a number of cells: none of its clusters has cells, or together
they have fewer. -/
inductive CropFault
  | noCells
  | tooFewCells

def CropFault.message : CropFault → Text
  | noCells => "division by zero".toList
  | tooFewCells => "list index out of range".toList

/-- The start of a text that fills a number of cells. -/
def crop (cells : Nat) (t : Text) : Except CropFault Text :=
  let total := Text.total ((clusters t).map Cluster.cells)
  if cells = 0 then .ok []
  else if total = 0 then .error .noCells
  else if total < cells then .error .tooFewCells
  else .ok (takeCells cells (clusters t))

/-- The text, cropped or with spaces behind it so that it fills a number of cells. -/
def fit (cells : Nat) (t : Text) : Except CropFault Text :=
  if cells < width t then crop cells t
  else .ok (t ++ List.replicate (cells - width t) ' ')

end Phrasebook.Text
