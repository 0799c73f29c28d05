import Phrasebook.Scanner.Basic

/-!
# Scanning

One pass over a text finds the longest phrase at each of its places. Among phrases of one length the
first of the list wins.
-/

namespace Phrasebook.Scanner

/-- The longest match at each place of a text. -/
abbrev Table := Array (Option Match)

/-- The longest match at a signed offset. -/
def Table.bestAt (table : Table) (i : Int) : Except Text.Outside (Option Match) :=
  Text.itemAt .table table i

/-- Where a scan stands: the node it is in, the number of characters read, and the longest matches
found so far. -/
structure Scan where
  node : Nat
  position : Nat
  table : Table

/-- The longer of two matches at one place, the first if both have one length. -/
def longer (known : Option Match) (found : Match) : Option Match :=
  match known with
  | none => some found
  | some m => if m.length < found.length then some found else some m

/-- Notes a match that ends before the place `stop`. -/
def Table.note (table : Table) (stop : Nat) (m : Match) : Table :=
  if m.length ≤ stop then table.modify (stop - m.length) (longer · m) else table

def Scan.read (s : Scanner) (scan : Scan) (c : CodePoint) : Scan :=
  let node := s.next scan.node c
  let stop := scan.position + 1
  let found := s.outputs.getD node []
  ⟨node, stop, found.foldl (Table.note · stop) scan.table⟩

/-- The longest match at each place of a text. -/
def scan (s : Scanner) (text : WideText) : Table :=
  (text.foldl (Scan.read s) ⟨0, 0, Array.replicate text.length none⟩).table

end Phrasebook.Scanner
