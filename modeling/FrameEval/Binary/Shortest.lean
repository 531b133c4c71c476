import FrameEval.Binary.Arithmetic

/-!
# Shortest decimal digits

A finite word stands for every real that rounds to it, and `shortest` chooses from that
interval the number with the fewest decimal digits.  Between two numbers of equally few
digits the nearer one wins; which way an exact tie goes is a parameter, because the two
printers of this library differ there.

The interval is compared with a decimal grid by cross multiplication, so the choice is
exact integer arithmetic on the significand and exponent of the word.
-/

namespace FrameEval.Binary

/-- The decimal number `significand · 10 ^ exponent`. -/
structure Decimal where
  significand : Nat
  exponent : Int
  deriving DecidableEq

namespace Decimal

/-- The same number without trailing zeros in its significand. -/
def normalize (decimal : Decimal) : Decimal :=
  go decimal.significand decimal.significand decimal.exponent
where
  /-- At most `bound` zeros are dropped; a number has fewer zeros than its value. -/
  go : Nat → Nat → Int → Decimal
  | 0, significand, exponent => ⟨significand, exponent⟩
  | bound + 1, significand, exponent =>
      if significand % 10 = 0 then go bound (significand / 10) (exponent + 1)
      else ⟨significand, exponent⟩

/-- The digits of the significand, most significant first. -/
def digits (decimal : Decimal) : List Char :=
  Nat.toDigits 10 decimal.significand

/-- The number of digits left of the point; negative when zeros follow the point. -/
def pointPosition (decimal : Decimal) : Int :=
  decimal.digits.length + decimal.exponent

/-- All digits written out, without an exponent. -/
def positional (decimal : Decimal) : String :=
  let digits := decimal.digits
  let point := decimal.pointPosition
  let zeros (count : Int) : List Char := List.replicate count.toNat '0'
  String.ofList <|
    if decimal.exponent ≥ 0 then
      digits ++ zeros decimal.exponent
    else if point > 0 then
      digits.take point.toNat ++ '.' :: digits.drop point.toNat
    else
      '0' :: '.' :: zeros (-point) ++ digits

end Decimal

/-- Which neighbour an exact tie goes to. -/
inductive Tie where
  | up
  | toEven
  deriving DecidableEq

/--
The reals that round to a positive word, in units of `2 ^ (exponent - 2)`, and whether
the ends themselves belong to it.
-/
structure Interval where
  lower : Nat
  center : Nat
  upper : Nat
  inclusive : Bool

namespace Format

/--
The rounding interval of `significand · 2 ^ exponent`.  Below a power of two the words lie
twice as close, so there the lower half is half as wide.
-/
def interval (format : Format) (significand : Nat) (exponent : Int) : Interval :=
  let narrow := significand = Nat.pow 2 format.fractionBits ∧ exponent > format.leastExponent
  { lower := 4 * significand - (if narrow then 1 else 2)
    center := 4 * significand
    upper := 4 * significand + 2
    inclusive := significand % 2 = 0 }

/-- The number of digits left of the point of `center · 2 ^ exponent`. -/
def integralDigits (center : Nat) (exponent : Int) : Int :=
  let value := Ratio.scaled center exponent
  let guess : Int :=
    (Nat.toDigits 10 value.numerator).length - (Nat.toDigits 10 value.denominator).length
  let scaled := value.numerator * Nat.pow 10 (-guess).toNat
  if scaled ≥ value.denominator * Nat.pow 10 guess.toNat then guess + 1 else guess

/-- The best number of the interval on the grid of multiples of `10 ^ place`, if there is one. -/
def onGrid? (interval : Interval) (exponent : Int) (tie : Tie) (place : Int) : Option Nat :=
  let up := Nat.pow 2 exponent.toNat * Nat.pow 10 (-place).toNat
  let down := Nat.pow 2 (-exponent).toNat * Nat.pow 10 place.toNat
  let below := interval.center * up / down
  let excess := interval.center * up % down
  let above := below + 1
  let belowFits :=
    if interval.inclusive then interval.lower * up ≤ below * down
    else interval.lower * up < below * down
  let aboveFits :=
    if interval.inclusive then above * down ≤ interval.upper * up
    else above * down < interval.upper * up
  let preferAbove :=
    2 * excess > down ∨ (2 * excess = down ∧ (tie = .up ∨ below % 2 = 1))
  if belowFits ∧ aboveFits then
    some (if preferAbove then above else below)
  else if belowFits then some below
  else if aboveFits then some above
  else none

/-- The number with the fewest digits that rounds to `significand · 2 ^ exponent`. -/
def shortest (format : Format) (tie : Tie) (significand : Nat) (exponent : Int) : Decimal :=
  let interval := format.interval significand exponent
  let integral := integralDigits interval.center (exponent - 2)
  let attempt (count : Nat) : Option Decimal :=
    let place := integral - count - 1
    (onGrid? interval (exponent - 2) tie place).map fun best => ⟨best, place⟩
  ((List.range 17).findSome? attempt).elim ⟨0, 0⟩ Decimal.normalize

/-- A word as text: every digit written out, and names for what has no digits. -/
def display (format : Format) (word : Nat) : String :=
  match format.decode word with
  | .nan => "NaN"
  | .infinite negative => if negative then "-inf" else "inf"
  | .finite negative significand exponent =>
      let magnitude :=
        if significand = 0 then "0"
        else (format.shortest .up significand exponent).positional
      if negative then "-" ++ magnitude else magnitude

end Format

end FrameEval.Binary
