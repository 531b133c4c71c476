import FrameEval.Evaluation.Context
import FrameEval.Instruction.Basic

/-!
# One instruction

What each instruction does.  Operands are checked before the target is asked, read
operations come before the one that changes something, and an array index is compared with
the length of its array before an element is touched.
-/

namespace FrameEval

/-- Where a program goes after an instruction. -/
inductive Flow where
  | next
  | jump (target : Nat)
  deriving DecidableEq

namespace Evaluation

variable (setting : Setting)

/-! ## Arrays -/

/-- Pop an array. -/
def popArray : Evaluation ArrayHandle := do
  match ← pop with
  | .array handle => return handle
  | .null => fail .nullArrayReference
  | other => fail (.notAnArray other.typeName)

/-- Pop an operand that is promoted to `int`. -/
def popInt (role : String) : Evaluation Int32 := do
  let value ← pop
  let mismatch := EvalError.typeMismatch s!"{role} must be an int, got {value.typeName}"
  match value with
  | .primitive given =>
      match given.toIntOperand? with
      | some operand => return operand
      | none => fail mismatch
  | _ => fail mismatch

/-- Compare an index with the length of its array. -/
def checkBounds (array : ArrayHandle) (index : Int32) : Evaluation Unit := do
  let length ← perform (.arrayLength array)
  if index < 0 || index ≥ length then fail (.indexOutOfRange index length)

def arrayLoad : Evaluation Unit := do
  let array ← popArray
  let index ← popInt "array index"
  checkBounds array index
  push (← perform (.arrayGet array index))

def arrayStore : Evaluation Unit := do
  let array ← popArray
  let index ← popInt "array index"
  let value ← pop
  checkBounds array index
  let value ← assign setting value array.element.signature
  perform (.arraySet array index value)

def arrayLength : Evaluation Unit := do
  let array ← popArray
  push (.int (← perform (.arrayLength array)))

def newArray (signature : String) : Evaluation Unit := do
  if Signature.isArray signature then
    let length ← popInt "array size"
    if length < 0 then fail (.negativeArraySize length)
    else push (← perform (.newArray signature length))
  else fail (.malformedSequence s!"new_array needs an array type, got {signature}")

/-! ## Fields and methods -/

/-- Check that a value can have members. -/
def checkReceiver (receiver : RemoteValue) (member : String) : Evaluation Unit :=
  match receiver with
  | .object _ => return
  | .array _ => return
  | .null => fail .nullReceiver
  | other => fail (.typeMismatch s!"{other.typeName} has no member {member}")

/-- Read a declared field of an object. -/
def readField (receiver : RemoteValue) (name : String) : Evaluation Unit := do
  let field ← perform (.instanceField receiver name)
  push (← perform (.getField (some receiver) field))

def fieldGet (name : String) : Evaluation Unit := do
  let receiver ← pop
  checkReceiver receiver name
  match receiver with
  | .array array =>
      if name = "length" then push (.int (← perform (.arrayLength array)))
      else readField receiver name
  | _ => readField receiver name

def fieldSet (name : String) : Evaluation Unit := do
  let value ← pop
  let receiver ← pop
  checkReceiver receiver name
  let field ← perform (.instanceField receiver name)
  let value ← assign setting value field.signature
  perform (.setField (some receiver) field value)

def staticFieldGet (className name : String) : Evaluation Unit := do
  let field ← perform (.staticField className name)
  push (← perform (.getField none field))

def staticFieldSet (className name : String) : Evaluation Unit := do
  let value ← pop
  let field ← perform (.staticField className name)
  let value ← assign setting value field.signature
  perform (.setField none field value)

/-- Push what an invocation returned, or set the exception that it threw. -/
def complete : InvokeOutcome → Evaluation Unit
  | .returned value => push value
  | .threw exception =>
      modify fun activation => { activation with stack := activation.stack.raise exception }

def invokeMethod (selector : MethodSelector) : Evaluation Unit := do
  let arguments ← onStack (OperandStack.popMany selector.arity)
  let receiver ← pop
  complete (← invoke setting receiver selector arguments)

def invokeStaticMethod (className : String) (selector : MethodSelector) : Evaluation Unit := do
  let arguments ← onStack (OperandStack.popMany selector.arity)
  complete (← invokeStatic setting className selector arguments)

def newObject (className : String) (selector : MethodSelector) : Evaluation Unit := do
  let arguments ← onStack (OperandStack.popMany selector.arity)
  complete (← construct setting className selector arguments)

/-! ## Operators -/

/-- Apply a binary operator; two references can only be compared by identity. -/
def applyBinary (op : BinaryOp) (left right : RemoteValue) : Except EvalError RemoteValue :=
  let mismatch := EvalError.typeMismatch
    s!"bad operand types for {op.symbol}: {left.typeName} and {right.typeName}"
  match left, right with
  | .primitive left, .primitive right => (op.apply left right).map .primitive
  | _, _ =>
      if left.isReference && right.isReference then
        match op with
        | .eq => .ok (.boolean (left.sameObject right))
        | .ne => .ok (.boolean (!left.sameObject right))
        | _ => .error mismatch
      else .error mismatch

def binary (op : BinaryOp) : Evaluation Unit := do
  let right ← pop
  let left ← pop
  push (← ofExcept (applyBinary op left right))

def unary (op : UnaryOp) : Evaluation Unit := do
  match ← pop with
  | .primitive operand => push (.primitive (← ofExcept (op.apply operand)))
  | other => fail (.typeMismatch s!"bad operand type {other.typeName} for unary operator")

/-- Cast a reference; only the runtime type decides. -/
def castReference (value : RemoteValue) (signature : String) : Evaluation RemoteValue := do
  let target := Signature.typeName signature
  match value with
  | .null => return value
  | .primitive _ => fail (.illegalCast value.typeName target)
  | .void => fail (.illegalCast value.typeName target)
  | _ =>
      if ← instanceOf setting value signature then return value
      else
        let runtime ← perform (.typeSignature value)
        fail (.illegalCast (Signature.typeName runtime) target)

def cast (signature : String) : Evaluation Unit := do
  let value ← pop
  match PrimitiveKind.ofSignature? signature with
  | some kind =>
      match value with
      | .primitive given => push (.primitive (← ofExcept (given.cast kind)))
      | other => fail (.illegalCast other.typeName kind.name)
  | none => push (← castReference setting value signature)

def testInstance (signature : String) : Evaluation Unit := do
  let value ← pop
  match value with
  | .null => push (.boolean false)
  | .primitive _ => fail (refused value)
  | .void => fail (refused value)
  | _ => push (.boolean (← instanceOf setting value signature))
where
  refused (value : RemoteValue) : EvalError :=
    .typeMismatch s!"instanceof needs a reference, got {value.typeName}"

/-- Pop a condition. -/
def popCondition : Evaluation Bool := do
  match ← pop with
  | .primitive (.boolean value) => return value
  | other => fail (.typeMismatch s!"condition must be boolean, got {other.typeName}")

/-! ## Locals -/

/-- Push a local; those of the program hide those of the frame. -/
def pushLocal (name : String) : Evaluation Unit := do
  match (← get).stack.local? name with
  | some value => push value
  | none => push (← localVariable setting name)

def storeLocal (name : String) : Evaluation Unit := do
  let value ← pop
  let declared ← onStack (OperandStack.assignLocal name value)
  if declared then return else setLocalVariable setting name value

/-- Execute an instruction. -/
def step : Instruction → Evaluation Flow
  | .pushLiteral value => do push value; return .next
  | .pushString text => do push (← perform (.createString text)); return .next
  | .pushThis => do push (← currentReceiver setting); return .next
  | .pushLocal name => do pushLocal setting name; return .next
  | .storeLocal name => do storeLocal setting name; return .next
  | .declareLocal name => do
      let initial ← pop
      onStack (OperandStack.declareLocal name initial)
      return .next
  | .loadTemporary slot => do
      push (← ofExcept ((← get).stack.temporary slot))
      return .next
  | .storeTemporary slot => do
      let value ← pop
      onStack (OperandStack.setTemporary slot value)
      return .next
  | .pop => do
      let _ ← pop
      return .next
  | .dup => do onStack OperandStack.dup; return .next
  | .arrayLoad => do arrayLoad; return .next
  | .arrayStore => do arrayStore setting; return .next
  | .arrayLength => do arrayLength; return .next
  | .newArray signature => do newArray signature; return .next
  | .fieldGet name => do fieldGet name; return .next
  | .fieldSet name => do fieldSet setting name; return .next
  | .staticFieldGet className name => do staticFieldGet className name; return .next
  | .staticFieldSet className name => do staticFieldSet setting className name; return .next
  | .invoke method => do invokeMethod setting method; return .next
  | .invokeStatic className method => do
      invokeStaticMethod setting className method
      return .next
  | .new className constructor => do newObject setting className constructor; return .next
  | .cast signature => do cast setting signature; return .next
  | .instanceOf signature => do testInstance setting signature; return .next
  | .binary op => do binary op; return .next
  | .unary op => do unary op; return .next
  | .jump target => return .jump target
  | .jumpIfTrue target => do if ← popCondition then return .jump target else return .next
  | .jumpIfFalse target => do if ← popCondition then return .next else return .jump target

end Evaluation

end FrameEval
