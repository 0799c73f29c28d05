import Phrasebook.Json.Basic

/-!
# Phrases

A phrase is a text of a vocabulary that is looked for in pages. Long texts, texts of several lines,
texts without a letter and roman numerals are left out: they do not occur in a table cell, or would
match far too often. The phrases of a vocabulary are listed once each, longest first.
-/

namespace Phrasebook.Phrase

def minLength : Nat := 2

def maxLength : Nat := 80

/-- The numerals from one to ten. -/
def romanNumerals : List Text :=
  ["I", "II", "III", "IV", "V", "VI", "VII", "VIII", "IX", "X"].map String.toList

/-- Whether a text is worth looking for. -/
def isUseful (t : WideText) : Bool :=
  minLength ≤ t.length && t.length ≤ maxLength && !t.any CodePoint.isLineBreak
    && t.any CodePoint.isLetter && !(romanNumerals.map Text.wide).contains t

/-- Whether a value is a text worth looking for. -/
def isUsefulValue (v : Json) : Bool :=
  v.text?.any isUseful

/-- The rank of a phrase: the longer, the smaller. -/
def rank (t : WideText) : Int :=
  - (t.length : Int)

/-- Whether `a` stands before `b` in a list of phrases, or may do so: it is longer, or as long and
not after `b` in the order of texts. -/
def precedes (a b : WideText) : Bool :=
  b.length < a.length || (a.length = b.length && !decide (b < a))

/-- The useful texts among the values, once each, longest first and then in the order of texts. -/
def collect (values : List Json) : List WideText :=
  (((values.filterMap Value.text?).filter isUseful).mergeSort precedes).eraseReps

end Phrasebook.Phrase
