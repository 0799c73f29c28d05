import Phrasebook.Guard
import Phrasebook.Scanner.Scan
import Phrasebook.Text.Edit

/-!
# Replacing phrases

A text is read from left to right. Where the longest phrase may be replaced and has a gloss, the
gloss is put in its place and reading goes on behind it; anywhere else it goes on at the next
character.
-/

namespace Phrasebook

/-- A phrase found between two offsets, and the text to be written in its place. -/
structure Replacement where
  start : Nat
  stop : Nat
  phrase : WideText
  gloss : WideText
  deriving DecidableEq, Repr

def Replacement.edit (r : Replacement) : Text.Edit :=
  ⟨r.start, r.stop, r.gloss⟩

structure Replacer where
  scanner : Scanner
  glosses : WideText → Option WideText
  guard : Guard := .wholeWords

namespace Replacer

/-- The replacement of a match at a place, if it is admitted and its phrase has a gloss. -/
def replacement? (r : Replacer) (text : WideText) (start : Nat) (m : Scanner.Match) :
    Option Replacement :=
  match r.scanner.phrases[m.phrase]? with
  | none => none
  | some phrase =>
    if r.guard.admits text start phrase then
      match r.glosses phrase with
      | some gloss =>
        if gloss.isEmpty then none else some ⟨start, start + m.length, phrase, gloss⟩
      | none => none
    else none

/-- The replacements from the place `start` on, where `best` lists the longest matches; the first
`skip` places are inside a phrase that was replaced. -/
def findFrom (r : Replacer) (text : WideText) :
    (best : List (Option Scanner.Match)) → (start skip : Nat) → List Replacement
  | [], _, _ => []
  | _ :: best, start, skip + 1 => r.findFrom text best (start + 1) skip
  | m :: best, start, 0 =>
    match m.bind (r.replacement? text start) with
    | none => r.findFrom text best (start + 1) 0
    | some found => found :: r.findFrom text best (start + 1) (found.stop - start - 1)

/-- The replacements in a text, in order. -/
def find (r : Replacer) (text : WideText) : List Replacement :=
  r.findFrom text (r.scanner.scan text).toList 0 0

/-- The text with its phrases replaced, and how many there were. -/
def replace (r : Replacer) (text : WideText) : WideText × Nat :=
  let found := r.find text
  (Text.Edit.applyAll text (found.map Replacement.edit), found.length)

/-- Replaces the phrases of a text and adds their number to the count. -/
def replaceCounting (r : Replacer) (text : WideText) : StateM Nat WideText := fun count =>
  let (replaced, n) := r.replace text
  (replaced, count + n)

end Replacer

end Phrasebook
