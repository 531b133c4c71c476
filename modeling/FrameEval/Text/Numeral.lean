/-!
# Numerals

Unsigned numbers in base ten and sixteen.  Reading accepts digits of either case and one
leading plus sign, and nothing else; in particular it never wraps, because its result is
an unbounded number that the caller compares with its own limit.
-/

namespace FrameEval.Text

/-- The value of a digit, letters of both cases counting from ten. -/
def digitValue? (base : Nat) (letter : Char) : Option Nat :=
  let value :=
    if '0' ≤ letter ∧ letter ≤ '9' then letter.toNat - '0'.toNat
    else if 'a' ≤ letter ∧ letter ≤ 'z' then letter.toNat - 'a'.toNat + 10
    else if 'A' ≤ letter ∧ letter ≤ 'Z' then letter.toNat - 'A'.toNat + 10
    else base
  if value < base then some value else none

/-- Read digits from the left, after a number already read. -/
def readDigits? (base : Nat) (value : Nat) : List Char → Option Nat
  | [] => some value
  | letter :: rest => do
      let digit ← digitValue? base letter
      readDigits? base (value * base + digit) rest

/-- Read a numeral: at least one digit, after at most one plus sign. -/
def readNumeral? (base : Nat) : List Char → Option Nat
  | '+' :: letter :: rest => readDigits? base 0 (letter :: rest)
  | letter :: rest => readDigits? base 0 (letter :: rest)
  | [] => none

/-- Read a numeral that fits 64 bits. -/
def readWord? (base : Nat) (text : List Char) : Option UInt64 := do
  let value ← readNumeral? base text
  if value < UInt64.size then some (UInt64.ofNat value) else none

/-- A number in base sixteen with lower-case digits and no leading zeros. -/
def hex (value : Nat) : String :=
  String.ofList (Nat.toDigits 16 value)

end FrameEval.Text
