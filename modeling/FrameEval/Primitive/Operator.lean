import FrameEval.EvalError
import FrameEval.Primitive.Basic

/-!
# Operators and casts on primitive values

Binary operators promote both operands to the wider of their kinds, at least `int`;
shifts promote each operand on its own and reduce the distance modulo the width of the
left one.  Integers wrap, integer division by zero is an error, and floating-point
operations are those of `Binary.Arithmetic`.  A cast between numeric kinds always
succeeds; there is none between `boolean` and another kind.
-/

namespace FrameEval

/-- The binary operators. -/
inductive BinaryOp where
  | add
  | sub
  | mul
  | div
  | rem
  | shl
  | shr
  | ushr
  | and
  | or
  | xor
  | eq
  | ne
  | lt
  | le
  | gt
  | ge
  deriving DecidableEq, Inhabited

/-- The unary operators: `-x`, `+x`, `~x` and `!x`. -/
inductive UnaryOp where
  | neg
  | plus
  | bitNot
  | not
  deriving DecidableEq, Inhabited

/-- Two operands after promotion to a common kind. -/
inductive Promoted where
  | ints (left right : Int32)
  | longs (left right : Int64)
  | floats (left right : Single)
  | doubles (left right : Double)

/-- A numeric value apart from its kind. -/
inductive Numeric where
  | integer (value : Int)
  | real (value : Double)

namespace BinaryOp

/-- The operator as it is written. -/
def symbol : BinaryOp → String
  | add => "+"
  | sub => "-"
  | mul => "*"
  | div => "/"
  | rem => "%"
  | shl => "<<"
  | shr => ">>"
  | ushr => ">>>"
  | and => "&"
  | or => "|"
  | xor => "^"
  | eq => "=="
  | ne => "!="
  | lt => "<"
  | le => "<="
  | gt => ">"
  | ge => ">="

/-- Whether the operator shifts its left operand. -/
def isShift : BinaryOp → Bool
  | shl => true
  | shr => true
  | ushr => true
  | _ => false

/-- The error of operands that the operator does not take. -/
def mismatch (op : BinaryOp) (left right : Primitive) : EvalError :=
  .typeMismatch
    s!"operator {op.symbol} cannot be applied to {left.kind.name}, {right.kind.name}"

/--
What a comparison says about two operands in a given order; operands that have no order
are different and in no order.
-/
def ofOrdering (op : BinaryOp) (order : Option Ordering) : Primitive :=
  .boolean <| match op with
    | eq => order = some .eq
    | ne => order ≠ some .eq
    | lt => order = some .lt
    | le => order = some .lt || order = some .eq
    | gt => order = some .gt
    | _ => order = some .gt || order = some .eq

/-- An operator on booleans, where it has a meaning. -/
def onBooleans? (op : BinaryOp) (left right : Bool) : Option Bool :=
  match op with
  | and => some (left && right)
  | or => some (left || right)
  | xor => some (left != right)
  | eq => some (left == right)
  | ne => some (left != right)
  | _ => none

/-- An operator other than a shift on two promoted `int` operands. -/
def onInts (op : BinaryOp) (left right : Int32) : Except EvalError Primitive :=
  match op with
  | add => .ok (.int (left + right))
  | sub => .ok (.int (left - right))
  | mul => .ok (.int (left * right))
  | div => if right = 0 then .error .divideByZero else .ok (.int (left / right))
  | rem => if right = 0 then .error .divideByZero else .ok (.int (left % right))
  | and => .ok (.int (left &&& right))
  | or => .ok (.int (left ||| right))
  | xor => .ok (.int (left ^^^ right))
  | _ => .ok (op.ofOrdering (some (compare left.toInt right.toInt)))

/-- An operator other than a shift on two promoted `long` operands. -/
def onLongs (op : BinaryOp) (left right : Int64) : Except EvalError Primitive :=
  match op with
  | add => .ok (.long (left + right))
  | sub => .ok (.long (left - right))
  | mul => .ok (.long (left * right))
  | div => if right = 0 then .error .divideByZero else .ok (.long (left / right))
  | rem => if right = 0 then .error .divideByZero else .ok (.long (left % right))
  | and => .ok (.long (left &&& right))
  | or => .ok (.long (left ||| right))
  | xor => .ok (.long (left ^^^ right))
  | _ => .ok (op.ofOrdering (some (compare left.toInt right.toInt)))

/-- An operator on two promoted `float` operands; bitwise operators have no meaning there. -/
def onFloats? (op : BinaryOp) (left right : Single) : Option Primitive :=
  match op with
  | add => some (.float (left.add right))
  | sub => some (.float (left.sub right))
  | mul => some (.float (left.mul right))
  | div => some (.float (left.div right))
  | rem => some (.float (left.rem right))
  | and => none
  | or => none
  | xor => none
  | _ => some (op.ofOrdering (left.compare? right))

/-- An operator on two promoted `double` operands; bitwise operators have no meaning there. -/
def onDoubles? (op : BinaryOp) (left right : Double) : Option Primitive :=
  match op with
  | add => some (.double (left.add right))
  | sub => some (.double (left.sub right))
  | mul => some (.double (left.mul right))
  | div => some (.double (left.div right))
  | rem => some (.double (left.rem right))
  | and => none
  | or => none
  | xor => none
  | _ => some (op.ofOrdering (left.compare? right))

/-- A shift of a promoted `int` by a distance already reduced. -/
def shiftInt (op : BinaryOp) (value distance : Int32) : Int32 :=
  match op with
  | shl => value <<< distance
  | shr => value >>> distance
  | _ => (value.toUInt32 >>> distance.toUInt32).toInt32

/-- A shift of a promoted `long` by a distance already reduced. -/
def shiftLong (op : BinaryOp) (value distance : Int64) : Int64 :=
  match op with
  | shl => value <<< distance
  | shr => value >>> distance
  | _ => (value.toUInt64 >>> distance.toUInt64).toInt64

/-- A shift, whose kind is that of the promoted left operand. -/
def shift (op : BinaryOp) (left right : Primitive) : Except EvalError Primitive :=
  match right.toInt?, left with
  | none, _ => .error (op.mismatch left right)
  | some distance, .long value =>
      .ok (.long (op.shiftLong value (Int64.ofInt (distance % 64))))
  | some distance, _ =>
      match left.toIntOperand? with
      | some value => .ok (.int (op.shiftInt value (Int32.ofInt (distance % 32))))
      | none => .error (op.mismatch left right)

end BinaryOp

namespace Primitive

/-- The nearest `float` of a value that is promoted to that kind. -/
def toSingle : Primitive → Single
  | float value => value
  | other => Single.ofInt (other.toInt?.getD 0)

/-- Promote two operands to the wider of their kinds, at least `int`; booleans have none. -/
def promote? (left right : Primitive) : Option Promoted :=
  if left.kind = .boolean ∨ right.kind = .boolean then
    none
  else if left.kind = .double ∨ right.kind = .double then
    some (.doubles (left.toDouble?.getD Double.zero) (right.toDouble?.getD Double.zero))
  else if left.kind = .float ∨ right.kind = .float then
    some (.floats left.toSingle right.toSingle)
  else if left.kind = .long ∨ right.kind = .long then
    some (.longs (Int64.ofInt (left.toInt?.getD 0)) (Int64.ofInt (right.toInt?.getD 0)))
  else
    some (.ints (Int32.ofInt (left.toInt?.getD 0)) (Int32.ofInt (right.toInt?.getD 0)))

/-- A value as a number; a boolean is none. -/
def numeric? : Primitive → Option Numeric
  | float value => some (.real value.toDouble)
  | double value => some (.real value)
  | other => other.toInt?.map .integer

end Primitive

/-- Apply a binary operator to two values. -/
def BinaryOp.apply (op : BinaryOp) (left right : Primitive) : Except EvalError Primitive :=
  match left, right with
  | .boolean first, .boolean second =>
      match op.onBooleans? first second with
      | some result => .ok (.boolean result)
      | none => .error (op.mismatch left right)
  | _, _ =>
      if op.isShift then
        op.shift left right
      else
        match left.promote? right with
        | none => .error (op.mismatch left right)
        | some (.ints first second) => op.onInts first second
        | some (.longs first second) => op.onLongs first second
        | some (.floats first second) =>
            (op.onFloats? first second).elim (.error (op.mismatch left right)) .ok
        | some (.doubles first second) =>
            (op.onDoubles? first second).elim (.error (op.mismatch left right)) .ok

namespace UnaryOp

/-- The operator as it is written. -/
def symbol : UnaryOp → String
  | neg => "-"
  | plus => "+"
  | bitNot => "~"
  | not => "!"

/-- Apply a unary operator, where it has a meaning. -/
def outcome? (op : UnaryOp) (operand : Primitive) : Option Primitive :=
  match op, operand with
  | not, .boolean value => some (.boolean (!value))
  | not, _ => none
  | _, .boolean _ => none
  | neg, .long value => some (.long (-value))
  | neg, .float value => some (.float value.neg)
  | neg, .double value => some (.double value.neg)
  | plus, .long value => some (.long value)
  | plus, .float value => some (.float value)
  | plus, .double value => some (.double value)
  | bitNot, .long value => some (.long (~~~value))
  | bitNot, .float _ => none
  | bitNot, .double _ => none
  | neg, small => small.toIntOperand?.map fun value => .int (-value)
  | plus, small => small.toIntOperand?.map .int
  | bitNot, small => small.toIntOperand?.map fun value => .int (~~~value)

/-- Apply a unary operator to a value. -/
def apply (op : UnaryOp) (operand : Primitive) : Except EvalError Primitive :=
  match op.outcome? operand with
  | some result => .ok result
  | none =>
      .error (.typeMismatch s!"operator {op.symbol} cannot be applied to {operand.kind.name}")

end UnaryOp

namespace Numeric

/-- To 32 bits: an integer wraps, a real is truncated and clamped. -/
def toInt32 : Numeric → Int32
  | integer value => Int32.ofInt value
  | real value => Int32.ofInt (value.datum.toIntWithin Int32.minValue.toInt Int32.maxValue.toInt)

/-- To 64 bits: an integer wraps, a real is truncated and clamped. -/
def toInt64 : Numeric → Int64
  | integer value => Int64.ofInt value
  | real value => Int64.ofInt (value.datum.toIntWithin Int64.minValue.toInt Int64.maxValue.toInt)

/-- To the nearest number of single precision. -/
def toSingle : Numeric → Single
  | integer value => Single.ofInt value
  | real value => value.toSingle

/-- To the nearest number of double precision. -/
def toDouble : Numeric → Double
  | integer value => Double.ofInt value
  | real value => value

/-- Convert to a numeric kind; the narrow integral kinds are reached through 32 bits. -/
def toKind? (number : Numeric) : PrimitiveKind → Option Primitive
  | .boolean => none
  | .byte => some (.byte number.toInt32.toInt8)
  | .char => some (.char number.toInt32.toUInt32.toUInt16)
  | .short => some (.short number.toInt32.toInt16)
  | .int => some (.int number.toInt32)
  | .long => some (.long number.toInt64)
  | .float => some (.float number.toSingle)
  | .double => some (.double number.toDouble)

end Numeric

/-- Convert a value to a kind. -/
def Primitive.cast (value : Primitive) (target : PrimitiveKind) : Except EvalError Primitive :=
  if value.kind = target then
    .ok value
  else
    match value.numeric?.bind fun number => number.toKind? target with
    | some result => .ok result
    | none => .error (.illegalCast value.kind.name target.name)

theorem Numeric.kind_toKind? {number : Numeric} {target : PrimitiveKind} {result : Primitive}
    (converted : number.toKind? target = some result) : result.kind = target := by
  cases target <;> simp only [toKind?, Option.some.injEq, reduceCtorEq] at converted <;>
    subst converted <;> rfl

/-- What a cast returns is of the kind that it casts to. -/
theorem Primitive.kind_cast {value result : Primitive} {target : PrimitiveKind}
    (returned : value.cast target = .ok result) : result.kind = target := by
  unfold cast at returned
  split at returned
  · next same =>
    cases returned
    exact same
  · split at returned
    · next converted =>
      cases returned
      obtain ⟨number, _, reached⟩ := Option.bind_eq_some_iff.1 converted
      exact number.kind_toKind? reached
    · cases returned

end FrameEval
