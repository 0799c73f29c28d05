
/-!
# Texts

A text is the sequence of its code points, so lengths and offsets count code points and two texts
are compared code point by code point.
-/

namespace Phrasebook

abbrev Text := List Char

namespace Text

/-- A text is hashed by its code points. -/
instance : Hashable Text where
  hash t := t.foldl (fun h c => mixHash h (hash c.toNat)) 7

/-- The sum of some lengths. -/
def total (lengths : List Nat) : Nat :=
  lengths.foldr (· + ·) 0

/-- The digits of a number in base ten, without leading zeros. -/
def decimal (n : Nat) : Text :=
  Nat.toDigits 10 n

/-- The character lies in one of the closed ranges of code points. -/
def inRanges (ranges : List (Nat × Nat)) (c : Char) : Bool :=
  ranges.any fun r => r.1 ≤ c.toNat && c.toNat ≤ r.2

/-- The offset of the first occurrence of `part`, counted from `n` on. -/
def findFrom (part : Text) : Text → (n : Nat := 0) → Option Nat
  | [], n => if part.isEmpty then some n else none
  | c :: cs, n => if part.isPrefixOf (c :: cs) then some n else findFrom part cs (n + 1)

/-- The parts of a text between the characters of a kind, of which there is one at least; `part`
holds the part begun, last character first. -/
def cut (isEnd : Char → Bool) : Text → (part : Text := []) → List Text
  | [], part => [part.reverse]
  | c :: t, part => if isEnd c then part.reverse :: cut isEnd t else cut isEnd t (c :: part)

/-- The text with its first occurrence of `old`, if there is one, replaced by `new`. -/
def replaceFirst (old new text : Text) : Text :=
  match findFrom old text with
  | none => text
  | some n => text.take n ++ new ++ text.drop (n + old.length)

end Text

end Phrasebook
