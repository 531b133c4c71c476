/-!
# Binary floating-point formats

A floating-point word is kept as its bit pattern.  `Format.decode` reads a word as an
exact value, a signed integer multiple of a power of two, and `Format.round` writes
the word nearest to an exact fraction, a tie going to the even neighbour.  Every
operation of `Binary.Arithmetic` is an exact computation between one `decode` and
one `round`, so nothing here depends on a machine's floating-point unit.
-/

namespace FrameEval.Binary

/-- An interchange format: the widths of its fraction and exponent fields. -/
structure Format where
  fractionBits : Nat
  exponentBits : Nat

/-- What a word denotes. -/
inductive Datum where
  | nan
  | infinite (negative : Bool)
  /-- The number `± significand · 2 ^ exponent`. -/
  | finite (negative : Bool) (significand : Nat) (exponent : Int)
  deriving DecidableEq

/-- A non-negative fraction as numerator and denominator. -/
structure Ratio where
  numerator : Nat
  denominator : Nat

namespace Ratio

/-- The fraction `count · 2 ^ exponent`. -/
def scaled (count : Nat) (exponent : Int) : Ratio where
  numerator := count * Nat.pow 2 exponent.toNat
  denominator := Nat.pow 2 (-exponent).toNat

end Ratio

namespace Format

/-- The 32-bit format. -/
def single : Format := ⟨23, 8⟩

/-- The 64-bit format. -/
def double : Format := ⟨52, 11⟩

/-- The exponent of the last place of the smallest numbers. -/
def leastExponent (format : Format) : Int :=
  2 - (Nat.pow 2 (format.exponentBits - 1) : Nat) - format.fractionBits

/-- The word of positive infinity: all exponent bits set, no fraction. -/
def infinityWord (format : Format) : Nat :=
  (Nat.pow 2 format.exponentBits - 1) * Nat.pow 2 format.fractionBits

/-- The word of the default quiet NaN. -/
def nanWord (format : Format) : Nat :=
  format.infinityWord + Nat.pow 2 (format.fractionBits - 1)

/-- The sign bit alone, or nothing for a positive number. -/
def signWord (format : Format) (negative : Bool) : Nat :=
  if negative then Nat.pow 2 (format.fractionBits + format.exponentBits) else 0

/-- The exact value of a word. -/
def decode (format : Format) (word : Nat) : Datum :=
  let negative := word / Nat.pow 2 (format.fractionBits + format.exponentBits) % 2 = 1
  let exponent := word / Nat.pow 2 format.fractionBits % Nat.pow 2 format.exponentBits
  let fraction := word % Nat.pow 2 format.fractionBits
  if exponent = Nat.pow 2 format.exponentBits - 1 then
    if fraction = 0 then .infinite negative else .nan
  else if exponent = 0 then
    .finite negative fraction format.leastExponent
  else
    .finite negative (Nat.pow 2 format.fractionBits + fraction)
      (format.leastExponent + exponent - 1)

/-- The integer nearest to a fraction, a tie going to the even one. -/
def nearest (numerator denominator : Nat) : Nat :=
  let quotient := numerator / denominator
  let twice := 2 * (numerator % denominator)
  if twice > denominator ∨ (twice = denominator ∧ quotient % 2 = 1) then
    quotient + 1
  else
    quotient

/--
The exponent at which a fraction has as many integral places as the format keeps,
but never below the least one.
-/
def placeOf (format : Format) (value : Ratio) : Int :=
  let below : Int := (value.numerator.log2 : Int) - value.denominator.log2 - 1
  let guess := max format.leastExponent (below - format.fractionBits)
  let scaled := value.numerator * Nat.pow 2 (-guess).toNat
  let quotient := scaled / (value.denominator * Nat.pow 2 guess.toNat)
  if quotient < Nat.pow 2 (format.fractionBits + 1) then guess else guess + 1

/-- The word nearest to a signed fraction; beyond the largest number it is infinity. -/
def round (format : Format) (negative : Bool) (value : Ratio) : Nat :=
  let sign := format.signWord negative
  if value.numerator = 0 then
    sign
  else
    let place := format.placeOf value
    let significand :=
      nearest (value.numerator * Nat.pow 2 (-place).toNat)
        (value.denominator * Nat.pow 2 place.toNat)
    let word := (place - format.leastExponent).toNat * Nat.pow 2 format.fractionBits + significand
    sign + min word format.infinityWord

/-- The word of an exact value. -/
def encode (format : Format) : Datum → Nat
  | .nan => format.nanWord
  | .infinite negative => format.signWord negative + format.infinityWord
  | .finite negative significand exponent =>
      format.round negative (Ratio.scaled significand exponent)

/-- The word nearest to an integer. -/
def ofInt (format : Format) (value : Int) : Nat :=
  format.round (value < 0) ⟨value.natAbs, 1⟩

/-- Move a word to another format, rounding where that format is narrower. -/
def convert (source target : Format) (word : Nat) : Nat :=
  target.encode (source.decode word)

end Format

end FrameEval.Binary
