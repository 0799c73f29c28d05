import Phrasebook.Text.Basic

/-!
# Signed offsets

An offset that is not negative counts from the start of a sequence, a negative one from its end. A
single place must lie inside the sequence, and its offset must fit into 64 bits; the bounds of a
slice are moved to the ends of the sequence instead.
-/

namespace Phrasebook.Text

/-- The place in a sequence of length `n` that a signed offset names, if it lies inside. -/
def place? (n : Nat) (i : Int) : Option Nat :=
  let p := if i < 0 then i + n else i
  if 0 ≤ p ∧ p < n then some p.toNat else none

/-- Why a signed offset names no place: it lies outside the sequence that was to be looked at, or
it does not fit into 64 bits. -/
inductive Outside
  | text
  | table
  | phrases
  | unfit
  deriving DecidableEq

def Outside.message : Outside → Text
  | text => "string index out of range".toList
  | table => "list index out of range".toList
  | phrases => "tuple index out of range".toList
  | unfit => "cannot fit 'int' into an index-sized integer".toList

/-- The offset fits into a signed word of 64 bits. -/
def fits (i : Int) : Bool :=
  -Int.pow 2 63 ≤ i && i < Int.pow 2 63

/-- What stands at a signed offset of a sequence; `outside` says which sequence it is. -/
def itemAt {α : Type} (outside : Outside) (xs : Array α) (i : Int) : Except Outside α :=
  if !fits i then .error .unfit
  else match (place? xs.size i).bind (xs[·]?) with
    | some x => .ok x
    | none => .error outside

/-- The bound in a sequence of length `n` that a signed offset names. -/
def bound (n : Nat) (i : Int) : Nat :=
  min (if i < 0 then i + n else i).toNat n

/-- The part between two bounds, empty when they are out of order. -/
def slice {α : Type} (xs : List α) (start stop : Int) : List α :=
  let a := bound xs.length start
  (xs.drop a).take (bound xs.length stop - a)

@[simp]
theorem bound_natCast (n i : Nat) : bound n i = min i n := by
  have : ¬ (i : Int) < 0 := by omega
  simp [bound, this]

theorem slice_natCast {α : Type} (xs : List α) (i j : Nat) :
    slice xs i j = (xs.drop i).take (j - i) := by
  simp only [slice, bound_natCast]
  rcases Nat.le_total i xs.length with hi | hi
  · rw [Nat.min_eq_left hi]
    rcases Nat.le_total j xs.length with hj | hj
    · rw [Nat.min_eq_left hj]
    · rw [Nat.min_eq_right hj, List.take_of_length_le (by simp),
        List.take_of_length_le (by simp; omega)]
  · rw [Nat.min_eq_right hi, List.drop_of_length_le (Nat.le_refl _), List.drop_of_length_le hi]
    simp

end Phrasebook.Text
