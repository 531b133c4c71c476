import FrameEval.Elapsed

/-!
# Evaluation errors

Why an evaluation ended without a value.  The errors fall into four kinds: faults of the
instruction sequence, failures that the evaluated code itself runs into, failures of the
target, and cancellation.  `message` is the only place where an error is worded.

There are two ways to stop without an error.  Searches and runs that have no bound of their own
get a limit, and to reach it is an outcome apart.  Another one is that the parameters of a method
had to be split and cannot be: no evaluation survives that.
-/

namespace FrameEval

/-- The kinds of evaluation errors. -/
inductive ErrorKind where
  | stackDiscipline
  | valueSemantics
  | remote
  | control
  deriving DecidableEq

/-- Why an evaluation ended without a value. -/
inductive EvalError where
  | stackUnderflow
  | malformedResult (depth : Nat)
  | malformedSequence (detail : String)
  | nullReceiver
  | nullArrayReference
  | indexOutOfRange (index length : Int32)
  | notAnArray (found : String)
  | negativeArraySize (size : Int32)
  | typeMismatch (detail : String)
  | illegalCast (source target : String)
  | divideByZero
  | noSuchField (wanted : String)
  | noSuchMethod (wanted : String)
  | noSuchClass (wanted : String)
  | noSuchVariable (wanted : String)
  /-- Code run by the evaluation threw this object. -/
  | remoteException (description : String) (exception : UInt64)
  | disconnected
  | timeout (elapsed : Elapsed)
  | staleHandle
  | staleFrame (detail : String)
  | protocol (detail : String)
  | cancelled
  deriving DecidableEq

namespace EvalError

/-- The text of an error. -/
def message : EvalError → String
  | stackUnderflow => "stack underflow"
  | malformedResult depth =>
      s!"evaluation finished with {depth} values on the stack, expected exactly one"
  | malformedSequence detail => s!"malformed instruction sequence: {detail}"
  | nullReceiver => "null receiver"
  | nullArrayReference => "null array reference"
  | indexOutOfRange index length =>
      s!"index {index.toInt} out of bounds for length {length.toInt}"
  | notAnArray found => s!"not an array: {found}"
  | negativeArraySize size => s!"negative array size: {size.toInt}"
  | typeMismatch detail => s!"type mismatch: {detail}"
  | illegalCast source target => s!"cannot cast {source} to {target}"
  | divideByZero => "division by zero"
  | noSuchField wanted => s!"no such field: {wanted}"
  | noSuchMethod wanted => s!"no such method: {wanted}"
  | noSuchClass wanted => s!"no such class: {wanted}"
  | noSuchVariable wanted => s!"no such variable: {wanted}"
  | remoteException description _ => description
  | disconnected => "target VM disconnected"
  | timeout elapsed => s!"timed out after {elapsed.display}"
  | staleHandle => "object handle is no longer valid"
  | staleFrame detail => s!"stack frame is no longer valid: {detail}"
  | protocol detail => s!"protocol error: {detail}"
  | cancelled => "evaluation cancelled"

/-- The kind of an error. -/
def kind : EvalError → ErrorKind
  | stackUnderflow => .stackDiscipline
  | malformedResult _ => .stackDiscipline
  | malformedSequence _ => .stackDiscipline
  | nullReceiver => .valueSemantics
  | nullArrayReference => .valueSemantics
  | indexOutOfRange _ _ => .valueSemantics
  | notAnArray _ => .valueSemantics
  | negativeArraySize _ => .valueSemantics
  | typeMismatch _ => .valueSemantics
  | illegalCast _ _ => .valueSemantics
  | divideByZero => .valueSemantics
  | noSuchField _ => .remote
  | noSuchMethod _ => .remote
  | noSuchClass _ => .remote
  | noSuchVariable _ => .remote
  | remoteException _ _ => .remote
  | disconnected => .remote
  | timeout _ => .remote
  | staleHandle => .remote
  | staleFrame _ => .remote
  | protocol _ => .remote
  | cancelled => .control

/-- Whether the instruction sequence itself is at fault, rather than what it does. -/
def isInternal (error : EvalError) : Bool :=
  error.kind = .stackDiscipline

/-- Whether the target was lost, as opposed to a failure that the target reported. -/
def isConnectionLoss : EvalError → Bool
  | disconnected => true
  | timeout _ => true
  | _ => false

end EvalError

/-- Why an evaluation stopped early. -/
inductive Halt where
  | failed (error : EvalError)
  /-- A limit was reached. -/
  | exhausted
  /-- Parameters of a method cannot be split. -/
  | aborted
  deriving DecidableEq

end FrameEval
