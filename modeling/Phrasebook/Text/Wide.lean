import Phrasebook.Text.Blank
import Phrasebook.Text.Letter
import Phrasebook.Text.Line

/-!
# Wide texts

A code point is a character or half of a surrogate pair, which stands for no character by itself.
The texts of files are made of characters, but an escape in a JSON document may name a half alone.
So vocabularies hold wide texts, in which halves may stand, and what is made with them is wide too.
A wide text can be written to a file just if it is narrow, that is, holds no half.
-/

namespace Phrasebook

inductive CodePoint
  | char (c : Char)
  /-- The half with a number counted from that of the first half. -/
  | half (n : Fin 0x800)
  deriving DecidableEq, Repr

namespace CodePoint

def toNat : CodePoint → Nat
  | char c => c.toNat
  | half n => 0xd800 + n

/-- The code point is a character of a kind. -/
def is (kind : Char → Bool) : CodePoint → Bool
  | char c => kind c
  | half _ => false

def isBlank (c : CodePoint) : Bool :=
  c.is Text.isBlank

def isLineBreak (c : CodePoint) : Bool :=
  c.is Text.isLineBreak

def isLetter (c : CodePoint) : Bool :=
  c.is Text.isLetter

def isAsciiLetter (c : CodePoint) : Bool :=
  c.is Text.isAsciiLetter

def char? : CodePoint → Option Char
  | char c => some c
  | half _ => none

def isHalf : CodePoint → Bool
  | char _ => false
  | half _ => true

/-- Code points are in the order of their numbers. -/
instance : LT CodePoint := ⟨fun a b => a.toNat < b.toNat⟩

instance : LE CodePoint := ⟨fun a b => a.toNat ≤ b.toNat⟩

instance : DecidableLT CodePoint := fun a b => inferInstanceAs (Decidable (a.toNat < b.toNat))

theorem toNat_char_ne_half (c : Char) (n : Fin 0x800) : c.toNat ≠ 0xd800 + n := by
  have hvalid : c.toNat < 0xd800 ∨ 0xdfff < c.toNat ∧ c.toNat < 0x110000 := c.valid
  have hn := n.isLt
  omega

theorem toNat_inj {a b : CodePoint} (h : a.toNat = b.toNat) : a = b := by
  rcases a with c | n <;> rcases b with d | m
  · exact congrArg char (Char.toNat_inj.1 h)
  · exact absurd h (toNat_char_ne_half c m)
  · exact absurd h.symm (toNat_char_ne_half d n)
  · have hval : (n : Nat) = m := Nat.add_left_cancel h
    exact congrArg half (Fin.ext hval)

end CodePoint

abbrev WideText := List CodePoint

/-- A text is hashed by its code points. -/
instance : Hashable WideText where
  hash t := t.foldl (fun h c => mixHash h (hash c.toNat)) 7

/-- A text as a wide one. -/
def Text.wide (t : Text) : WideText :=
  t.map .char

namespace Text

@[simp]
theorem wide_nil : wide [] = [] := rfl

@[simp]
theorem wide_cons (c : Char) (t : Text) : wide (c :: t) = .char c :: t.wide := rfl

@[simp]
theorem wide_append (s t : Text) : wide (s ++ t) = s.wide ++ t.wide :=
  List.map_append

@[simp]
theorem char_mem_wide {c : Char} {t : Text} : .char c ∈ t.wide ↔ c ∈ t := by
  simp [wide]

theorem takeWhile_wide (kind : Char → Bool) (t : Text) :
    t.wide.takeWhile (·.is kind) = wide (t.takeWhile kind) :=
  List.takeWhile_map

end Text

namespace WideText

def ofString (s : String) : WideText :=
  Text.wide s.toList

/-- The characters of a wide text. -/
def chars (t : WideText) : Text :=
  t.filterMap CodePoint.char?

@[simp]
theorem chars_wide (t : Text) : chars t.wide = t := by
  induction t with
  | nil => rfl
  | cons c t ih => exact congrArg (c :: ·) ih

theorem wide_inj {s t : Text} (h : s.wide = t.wide) : s = t := by
  rw [← chars_wide s, h, chars_wide]

/-- A wide text is narrow if it holds no half. -/
def isNarrow (t : WideText) : Bool :=
  !t.any CodePoint.isHalf

@[simp]
theorem isNarrow_wide (t : Text) : isNarrow t.wide = true := by
  simp [isNarrow, Text.wide, CodePoint.isHalf]

theorem wide_chars : ∀ {t : WideText}, t.isNarrow = true → t.chars.wide = t
  | [], _ => rfl
  | .char c :: _, h => congrArg (CodePoint.char c :: ·) (wide_chars h)
  | .half _ :: _, h => nomatch h

/-- The first halves in a text that is not narrow: their offset, and those that stand together
there. -/
structure Halves where
  offset : Nat
  halves : WideText
  deriving DecidableEq

def firstHalves (t : WideText) : Halves :=
  let offset := (t.takeWhile (!·.isHalf)).length
  ⟨offset, (t.drop offset).takeWhile CodePoint.isHalf⟩

/-- The text that a wide one is, if it is narrow. -/
def narrow (t : WideText) : Except Halves Text :=
  if t.isNarrow then .ok t.chars else .error t.firstHalves

@[simp]
theorem narrow_wide (t : Text) : narrow t.wide = .ok t := by
  rw [narrow, if_pos (isNarrow_wide t), chars_wide]

theorem narrow_eq_ok {t : WideText} {u : Text} : t.narrow = .ok u ↔ t = u.wide := by
  constructor
  · intro h
    unfold narrow at h
    split at h
    · rename_i hnarrow
      rw [← Except.ok.inj h, wide_chars hnarrow]
    · cases h
  · rintro rfl
    exact narrow_wide u

/-- A code point inside quotes. -/
def escape (mark : Char) : CodePoint → Text
  | .char c => Text.Quoted.escape mark c
  | .half n => '\\' :: 'u' :: Text.hexDigits 4 (CodePoint.half n).toNat

/-- The text as it is shown in a message. -/
def quoted (t : WideText) : Text :=
  let mark := Text.Quoted.mark t.chars
  mark :: t.flatMap (escape mark) ++ [mark]

def Halves.message (h : Halves) : Text :=
  let place := match h.halves with
    | [c] => "character ".toList ++ quoted [c] ++ " in position ".toList ++ Text.decimal h.offset
    | cs => "characters in position ".toList ++ Text.decimal h.offset ++ '-' ::
      Text.decimal (h.offset + cs.length - 1)
  "'utf-8' codec can't encode ".toList ++ place ++ ": surrogates not allowed".toList

end WideText

end Phrasebook
