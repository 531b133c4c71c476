import FrameEval.Primitive.Operator
import FrameEval.RemoteValue.Basic
import FrameEval.Table

/-!
# Operand stacks

What one evaluation holds beside the target: the operand values, eight temporary slots,
the locals that the program itself declares, and the exception that an invocation threw.

An operation returns its result or an error together with the stack afterwards; an
operation that fails returns the stack as it was.
-/

namespace FrameEval

/-- The state of one evaluation. -/
structure OperandStack where
  /-- The operand values, the top first. -/
  operands : List RemoteValue
  temporaries : Table Nat RemoteValue
  locals : Table String RemoteValue
  /-- An exception in flight. -/
  exception : Option ObjectHandle

namespace OperandStack

/-- An operation on the stack. -/
abbrev Action (α : Type) := OperandStack → Except EvalError α × OperandStack

def empty : OperandStack := ⟨[], .empty, .empty, none⟩

instance : Inhabited OperandStack := ⟨empty⟩

/-- The number of temporary slots. -/
def temporaryCount : Nat := 8

/-- The number of operand values. -/
def size (stack : OperandStack) : Nat := stack.operands.length

/-- Put a value on top. -/
def push (value : RemoteValue) (stack : OperandStack) : OperandStack :=
  { stack with operands := value :: stack.operands }

/-- Take the value on top. -/
def pop : Action RemoteValue := fun stack =>
  match stack.operands with
  | [] => (.error .stackUnderflow, stack)
  | top :: below => (.ok top, { stack with operands := below })

/-- Take so many values, returned in the order in which they were pushed. -/
def popMany (count : Nat) : Action (List RemoteValue) := fun stack =>
  if stack.operands.length < count then (.error .stackUnderflow, stack)
  else
    (.ok (stack.operands.take count).reverse,
      { stack with operands := stack.operands.drop count })

/-- The value on top. -/
def peek (stack : OperandStack) : Except EvalError RemoteValue :=
  match stack.operands with
  | [] => .error .stackUnderflow
  | top :: _ => .ok top

/-- Push the value on top once more. -/
def dup : Action Unit := fun stack =>
  match stack.operands with
  | [] => (.error .stackUnderflow, stack)
  | top :: below => (.ok (), { stack with operands := top :: top :: below })

/-- The error of a slot number that is too large. -/
def slotOutOfRange (slot : Nat) : EvalError :=
  .malformedSequence s!"temporary slot {slot} out of range (0..{temporaryCount})"

/-- The value of a temporary slot that was written before. -/
def temporary (slot : Nat) (stack : OperandStack) : Except EvalError RemoteValue :=
  if slot < temporaryCount then
    match stack.temporaries.find? slot with
    | some value => .ok value
    | none => .error (.malformedSequence s!"temporary slot {slot} read before it was written")
  else .error (slotOutOfRange slot)

/-- Write a temporary slot. -/
def setTemporary (slot : Nat) (value : RemoteValue) : Action Unit := fun stack =>
  if slot < temporaryCount then
    (.ok (), { stack with temporaries := stack.temporaries.insert slot value })
  else (.error (slotOutOfRange slot), stack)

/-- The value of a declared local. -/
def local? (name : String) (stack : OperandStack) : Option RemoteValue :=
  stack.locals.find? name

/-- Declare a local; a name can be declared once. -/
def declareLocal (name : String) (initial : RemoteValue) : Action Unit := fun stack =>
  if stack.locals.contains name then
    (.error (.malformedSequence s!"local {name} declared twice"), stack)
  else (.ok (), { stack with locals := stack.locals.insert name initial })

/-- The value that a local of the class of `old` holds after `new` is assigned to it. -/
def converted (name : String) (old new : RemoteValue) : Except EvalError RemoteValue :=
  let mismatch := EvalError.typeMismatch
    s!"cannot assign {new.typeName} to local {name} of type {old.typeName}"
  match old, new with
  | .primitive held, .primitive given =>
      if given.kind.widensTo held.kind then (given.cast held.kind).map .primitive
      else .error mismatch
  | _, _ => if old.isReference && new.isReference then .ok new else .error mismatch

/-- Assign to a declared local; false when there is none of that name. -/
def assignLocal (name : String) (value : RemoteValue) : Action Bool := fun stack =>
  match stack.locals.find? name with
  | none => (.ok false, stack)
  | some old =>
      match converted name old value with
      | .ok new => (.ok true, { stack with locals := stack.locals.insert name new })
      | .error error => (.error error, stack)

/-- Set the exception in flight. -/
def raise (exception : ObjectHandle) (stack : OperandStack) : OperandStack :=
  { stack with exception := some exception }

/-- Take the exception in flight. -/
def takeException (stack : OperandStack) : Option ObjectHandle × OperandStack :=
  (stack.exception, { stack with exception := none })

/-- The one value that is left at the end. -/
def result (stack : OperandStack) : Except EvalError RemoteValue :=
  match stack.operands with
  | [value] => .ok value
  | _ => .error (.malformedResult stack.size)

end OperandStack

end FrameEval
