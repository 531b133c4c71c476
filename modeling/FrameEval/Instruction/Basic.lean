import FrameEval.Member
import FrameEval.Primitive.Operator
import FrameEval.RemoteValue.Basic

/-!
# Instructions

A compiled expression is a list of instructions.  Each takes its operands from the operand
stack, asks the target at most a few questions, and pushes its result.
-/

namespace FrameEval

/-- One instruction; its operands are listed from the bottom to the top of the stack. -/
inductive Instruction where
  | pushLiteral (value : RemoteValue)
  /-- Create a string in the target. -/
  | pushString (text : String)
  | pushThis
  /-- A local of the program, or else one of the frame. -/
  | pushLocal (name : String)
  /-- value → -/
  | storeLocal (name : String)
  /-- initial value → -/
  | declareLocal (name : String)
  | loadTemporary (slot : Nat)
  | storeTemporary (slot : Nat)
  | pop
  | dup
  /-- index, array → element -/
  | arrayLoad
  /-- value, index, array → -/
  | arrayStore
  | arrayLength
  /-- length → array of the given array type -/
  | newArray (signature : String)
  /-- receiver → value -/
  | fieldGet (name : String)
  /-- receiver, value → -/
  | fieldSet (name : String)
  | staticFieldGet (className name : String)
  | staticFieldSet (className name : String)
  /-- receiver, arguments → result -/
  | invoke (method : MethodSelector)
  | invokeStatic (className : String) (method : MethodSelector)
  | new (className : String) (constructor : MethodSelector)
  | cast (signature : String)
  | instanceOf (signature : String)
  | binary (op : BinaryOp)
  | unary (op : UnaryOp)
  | jump (target : Nat)
  /-- condition → -/
  | jumpIfTrue (target : Nat)
  /-- condition → -/
  | jumpIfFalse (target : Nat)
  deriving DecidableEq

/-- A compiled expression. -/
abbrev Program := List Instruction

end FrameEval
