import FrameEval.Binary.Format

/-!
# Floating-point arithmetic

The four operations, the remainder with the dividend's sign, the order and the
conversions to integers, each computed exactly and rounded once.
-/

namespace FrameEval.Binary

namespace Datum

/-- The sign of a datum; a NaN counts as positive. -/
def isNegative : Datum → Bool
  | nan => false
  | infinite negative => negative
  | finite negative _ _ => negative

/-- The signed integer that a finite datum is of `2 ^ place`, for a place at or below its own. -/
def atPlace (place : Int) : Datum → Int
  | finite negative significand exponent =>
      let magnitude : Int := (significand * Nat.pow 2 (exponent - place).toNat : Nat)
      if negative then -magnitude else magnitude
  | _ => 0

/-- The place of the last digit of a finite datum. -/
def place : Datum → Int
  | finite _ _ exponent => exponent
  | _ => 0

/-- Whether the datum is a zero of either sign. -/
def isZero : Datum → Bool
  | finite _ significand _ => significand = 0
  | _ => false

/-- Order of two data; `none` when one of them is a NaN. -/
def compare? : Datum → Datum → Option Ordering
  | nan, _ => none
  | _, nan => none
  | infinite first, infinite second =>
      some (if first = second then .eq else if first then .lt else .gt)
  | infinite first, finite _ _ _ => some (if first then .lt else .gt)
  | finite _ _ _, infinite second => some (if second then .gt else .lt)
  | first@(finite _ _ _), second@(finite _ _ _) =>
      let common := min first.place second.place
      some (Ord.compare (first.atPlace common) (second.atPlace common))

/--
The integer part of a datum brought into a range: NaN is zero, and what lies outside
the range goes to the nearer end.
-/
def toIntWithin (least greatest : Int) : Datum → Int
  | nan => 0
  | infinite negative => if negative then least else greatest
  | finite negative significand exponent =>
      let magnitude : Int :=
        (significand * Nat.pow 2 exponent.toNat / Nat.pow 2 (-exponent).toNat : Nat)
      max least (min greatest (if negative then -magnitude else magnitude))

end Datum

namespace Format

/-- The word of an exact signed multiple of `2 ^ place`, an exact zero having the given sign. -/
def roundInt (format : Format) (value : Int) (place : Int) (negativeZero : Bool) : Nat :=
  if value = 0 then
    format.signWord negativeZero
  else
    format.round (value < 0) (Ratio.scaled value.natAbs place)

/-- Sum; a zero sum is negative only when both terms are. -/
def add (format : Format) (left right : Nat) : Nat :=
  match format.decode left, format.decode right with
  | .nan, _ => format.nanWord
  | _, .nan => format.nanWord
  | .infinite first, .infinite second =>
      if first = second then format.encode (.infinite first) else format.nanWord
  | .infinite first, _ => format.encode (.infinite first)
  | _, .infinite second => format.encode (.infinite second)
  | first, second =>
      let common := min first.place second.place
      format.roundInt (first.atPlace common + second.atPlace common) common
        (first.isNegative && second.isNegative)

/-- The same number with the other sign. -/
def negate (format : Format) (word : Nat) : Nat :=
  let sign := format.signWord true
  if word / sign % 2 = 1 then word - sign else word + sign

/-- Difference. -/
def sub (format : Format) (left right : Nat) : Nat :=
  format.add left (format.negate right)

/-- Product. -/
def mul (format : Format) (left right : Nat) : Nat :=
  match format.decode left, format.decode right with
  | .nan, _ => format.nanWord
  | _, .nan => format.nanWord
  | .finite first significand exponent, .finite second significand' exponent' =>
      format.round (first != second)
        (Ratio.scaled (significand * significand') (exponent + exponent'))
  | first, second =>
      if first.isZero || second.isZero then
        format.nanWord
      else
        format.encode (.infinite (first.isNegative != second.isNegative))

/-- Quotient; a finite number over zero is infinite, zero over zero is a NaN. -/
def div (format : Format) (left right : Nat) : Nat :=
  match format.decode left, format.decode right with
  | .nan, _ => format.nanWord
  | _, .nan => format.nanWord
  | .infinite _, .infinite _ => format.nanWord
  | .infinite first, second => format.encode (.infinite (first != second.isNegative))
  | first, .infinite second => format.signWord (first.isNegative != second)
  | .finite first significand exponent, .finite second significand' exponent' =>
      if significand' = 0 then
        if significand = 0 then format.nanWord else format.encode (.infinite (first != second))
      else
        let shift := exponent - exponent'
        format.round (first != second)
          ⟨significand * Nat.pow 2 shift.toNat, significand' * Nat.pow 2 (-shift).toNat⟩

/-- Remainder of the quotient truncated toward zero; its sign is the dividend's. -/
def rem (format : Format) (left right : Nat) : Nat :=
  match format.decode left, format.decode right with
  | .nan, _ => format.nanWord
  | _, .nan => format.nanWord
  | .infinite _, _ => format.nanWord
  | .finite _ _ _, .infinite _ => left
  | first@(.finite _ _ _), second@(.finite _ divisor _) =>
      if divisor = 0 then
        format.nanWord
      else
        let common := min first.place second.place
        format.roundInt ((first.atPlace common).tmod (second.atPlace common)) common
          first.isNegative

end Format

end FrameEval.Binary
