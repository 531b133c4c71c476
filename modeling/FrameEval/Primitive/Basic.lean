import FrameEval.Binary.Number
import FrameEval.Primitive.Kind

/-!
# Primitive values

A primitive value with its kind.  Integers have the width of their kind, a character is a
UTF-16 unit, and floating-point values are bit patterns.
-/

namespace FrameEval

/-- A primitive value. -/
inductive Primitive where
  | boolean (value : Bool)
  | byte (value : Int8)
  | char (value : UInt16)
  | short (value : Int16)
  | int (value : Int32)
  | long (value : Int64)
  | float (value : Single)
  | double (value : Double)
  deriving DecidableEq, Inhabited

namespace Primitive

/-- The kind of a value. -/
def kind : Primitive → PrimitiveKind
  | boolean _ => .boolean
  | byte _ => .byte
  | char _ => .char
  | short _ => .short
  | int _ => .int
  | long _ => .long
  | float _ => .float
  | double _ => .double

/-- The integer that a value of integral kind stands for. -/
def toInt? : Primitive → Option Int
  | byte value => some value.toInt
  | char value => some value.toNat
  | short value => some value.toInt
  | int value => some value.toInt
  | long value => some value.toInt
  | _ => none

/-- The double nearest to a numeric value. -/
def toDouble? : Primitive → Option Double
  | float value => some value.toDouble
  | double value => some value
  | other => other.toInt?.map Double.ofInt

/-- The value of an operand that is promoted to `int` on its own. -/
def toIntOperand? : Primitive → Option Int32
  | byte value => some (Int32.ofInt value.toInt)
  | char value => some (Int32.ofInt value.toNat)
  | short value => some (Int32.ofInt value.toInt)
  | int value => some value
  | _ => none

/-- The value that fresh fields and array elements of a kind hold. -/
def default : PrimitiveKind → Primitive
  | .boolean => boolean false
  | .byte => byte 0
  | .char => char 0
  | .short => short 0
  | .int => int 0
  | .long => long 0
  | .float => float Single.zero
  | .double => double Double.zero

@[simp]
theorem kind_default (kind : PrimitiveKind) : (default kind).kind = kind := by
  cases kind <;> rfl

/-- A UTF-16 unit as a character; a surrogate has none and shows as a stand-in. -/
def unitChar (unit : UInt16) (standIn : Char) : Char :=
  if unit.toNat < 0xd800 ∨ 0xdfff < unit.toNat then Char.ofNat unit.toNat else standIn

/-- The text of a value: its kind in parentheses, and a character in single quotes.  A lone
surrogate shows as the replacement character. -/
def display : Primitive → String
  | boolean value => s!"(boolean) {value}"
  | byte value => s!"(byte) {value.toInt}"
  | char value => "(char) '" ++ String.singleton (unitChar value (Char.ofNat 0xfffd)) ++ "'"
  | short value => s!"(short) {value.toInt}"
  | int value => s!"(int) {value.toInt}"
  | long value => s!"(long) {value.toInt}"
  | float value => s!"(float) {value.display}"
  | double value => s!"(double) {value.display}"

end Primitive

end FrameEval
