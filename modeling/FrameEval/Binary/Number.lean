import FrameEval.Binary.Shortest

/-!
# Single and double precision numbers

Words of the two formats as types of their own, with the operations of
`Binary.Arithmetic` specialised to them.  Equality of these types is equality of bit
patterns; the order of the numbers, in which zeros of both signs agree and a NaN is
related to nothing, is `compare?`.
-/

namespace FrameEval

open Binary

/-- A 32-bit floating-point number. -/
structure Single where
  bits : UInt32
  deriving DecidableEq, Inhabited

/-- A 64-bit floating-point number. -/
structure Double where
  bits : UInt64
  deriving DecidableEq, Inhabited

namespace Single

/-- The number with a given word. -/
def ofWord (word : Nat) : Single := ⟨UInt32.ofNat word⟩

/-- The word of a number. -/
def word (number : Single) : Nat := number.bits.toNat

def zero : Single := ⟨0⟩

def add (left right : Single) : Single := ofWord (Format.single.add left.word right.word)

def sub (left right : Single) : Single := ofWord (Format.single.sub left.word right.word)

def mul (left right : Single) : Single := ofWord (Format.single.mul left.word right.word)

def div (left right : Single) : Single := ofWord (Format.single.div left.word right.word)

def rem (left right : Single) : Single := ofWord (Format.single.rem left.word right.word)

def neg (number : Single) : Single := ofWord (Format.single.negate number.word)

/-- The exact value. -/
def datum (number : Single) : Datum := Format.single.decode number.word

def compare? (left right : Single) : Option Ordering := left.datum.compare? right.datum

def ofInt (value : Int) : Single := ofWord (Format.single.ofInt value)

def isNaN (number : Single) : Bool := number.datum = .nan

def display (number : Single) : String := Format.single.display number.word

end Single

namespace Double

/-- The number with a given word. -/
def ofWord (word : Nat) : Double := ⟨UInt64.ofNat word⟩

/-- The word of a number. -/
def word (number : Double) : Nat := number.bits.toNat

def zero : Double := ⟨0⟩

def add (left right : Double) : Double := ofWord (Format.double.add left.word right.word)

def sub (left right : Double) : Double := ofWord (Format.double.sub left.word right.word)

def mul (left right : Double) : Double := ofWord (Format.double.mul left.word right.word)

def div (left right : Double) : Double := ofWord (Format.double.div left.word right.word)

def rem (left right : Double) : Double := ofWord (Format.double.rem left.word right.word)

def neg (number : Double) : Double := ofWord (Format.double.negate number.word)

/-- The exact value. -/
def datum (number : Double) : Datum := Format.double.decode number.word

def compare? (left right : Double) : Option Ordering := left.datum.compare? right.datum

def ofInt (value : Int) : Double := ofWord (Format.double.ofInt value)

def isNaN (number : Double) : Bool := number.datum = .nan

def display (number : Double) : String := Format.double.display number.word

end Double

/-- The same number in double precision; exact. -/
def Single.toDouble (number : Single) : Double :=
  .ofWord (Format.single.convert Format.double number.word)

/-- The nearest number of single precision. -/
def Double.toSingle (number : Double) : Single :=
  .ofWord (Format.double.convert Format.single number.word)

end FrameEval
