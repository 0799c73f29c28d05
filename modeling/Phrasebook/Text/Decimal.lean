import Phrasebook.Text.Basic

/-!
# Decimal numbers

A decimal number has a sign, which zero has too, and is an integer times a power of ten. It is
written with no digit more than it needs: with a point when its first digit stands at most sixteen
places before the point and four behind it, and with an exponent otherwise. Numbers without a bound
and results that are no number have a word each.
-/

namespace Phrasebook

namespace Text

def integer (n : Int) : Text :=
  if n < 0 then '-' :: decimal n.natAbs else decimal n.natAbs

/-- The number that some digits write. -/
def natural (digits : Text) : Nat :=
  digits.foldl (fun n c => n * 10 + (c.toNat - '0'.toNat)) 0

end Text

inductive Decimal
  /-- The number `digits` times the power of ten with that exponent. -/
  | finite (negative : Bool) (digits : Nat) (exponent : Int)
  | infinite (negative : Bool)
  | undefined
  deriving DecidableEq

namespace Decimal

def isZero : Decimal → Bool
  | finite _ digits _ => digits = 0
  | _ => false

/-- The digits without the zeros at their end. -/
def significant (digits : Text) : Text :=
  (digits.reverse.dropWhile (· = '0')).reverse

/-- Digits of which `point` stand before the point, or, if that is negative, behind so many zeros
that follow the point. -/
def positional (digits : Text) (point : Int) : Text :=
  if point ≤ 0 then "0.".toList ++ List.replicate (-point).toNat '0' ++ digits
  else
    let whole := digits.take point.toNat
    let fraction := digits.drop point.toNat
    whole ++ List.replicate (point.toNat - whole.length) '0' ++ '.' ::
      (if fraction.isEmpty then ['0'] else fraction)

/-- Digits with a point behind the first and an exponent of two digits at least. -/
def exponential (digits : Text) (exponent : Int) : Text :=
  let fraction := digits.drop 1
  let size := Text.decimal exponent.natAbs
  digits.take 1 ++ (if fraction.isEmpty then [] else '.' :: fraction)
    ++ ['e', if exponent < 0 then '-' else '+']
    ++ List.replicate (2 - size.length) '0' ++ size

/-- A number that is not negative. -/
def magnitude (number : Nat) (exponent : Int) : Text :=
  let all := Text.decimal number
  let digits := significant all
  let point := all.length + exponent
  if digits.isEmpty then "0.0".toList
  else if -4 < point ∧ point ≤ 16 then positional digits point
  else exponential digits (point - 1)

def toText : Decimal → Text
  | finite negative digits exponent =>
    (if negative then ['-'] else []) ++ magnitude digits exponent
  | infinite negative => (if negative then ['-'] else []) ++ "inf".toList
  | undefined => "nan".toList

end Decimal

end Phrasebook
