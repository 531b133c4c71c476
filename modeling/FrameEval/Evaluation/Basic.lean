import FrameEval.Dialogue
import FrameEval.OperandStack
import FrameEval.Remote.Operation

/-!
# Evaluations

An evaluation is a dialogue with its surroundings: it asks the target to perform operations,
and it asks whether it was cancelled.  It carries an operand stack and the id of its frame,
and keeps both when it fails.

The search of a type hierarchy and the run of a program have no bound of their own, so both
get a limit.  To reach it is not an error of the evaluation but an outcome apart.
-/

namespace FrameEval

open Wire

/-- What an evaluation asks. -/
inductive Inquiry where
  | operation (operation : Operation)
  /-- Whether the evaluation was cancelled. -/
  | cancelled

/-- The answers to what an evaluation asks. -/
@[reducible]
def Inquiry.Answer : Inquiry → Type
  | operation asked => Except Halt asked.Answer
  | cancelled => Bool

/-- What an evaluation carries. -/
structure Activation where
  /-- The id of the frame, which the target may change whenever it runs code. -/
  frameId : FrameId
  stack : OperandStack

/-- An evaluation with a result. -/
abbrev Evaluation (α : Type) :=
  ExceptT Halt (StateT Activation (Dialogue Inquiry Inquiry.Answer)) α

namespace Evaluation

variable {α : Type}

/-- Stop with an error. -/
def fail (error : EvalError) : Evaluation α :=
  throw (.failed error)

/-- Stop because a limit was reached. -/
def exhaust : Evaluation α :=
  throw .exhausted

/-- Go on with what could be split, or break off. -/
def orAbort : Option α → Evaluation α
  | some value => return value
  | none => throw .aborted

/-- Go on with a result, or stop with its error. -/
def ofExcept : Except EvalError α → Evaluation α
  | .ok value => return value
  | .error error => fail error

/-- Ask a question whatever its answer. -/
def inquire (inquiry : Inquiry) : Evaluation inquiry.Answer :=
  ExceptT.lift (StateT.lift (Dialogue.query inquiry))

/-- Ask the target to perform an operation; a failure stops the evaluation. -/
def perform (operation : Operation) : Evaluation operation.Answer := do
  match ← inquire (.operation operation) with
  | .ok answer => return answer
  | .error halt => throw halt

/-- Work on the operand stack. -/
def onStack (action : OperandStack.Action α) : Evaluation α := do
  let activation ← get
  let (result, stack) := action activation.stack
  set { activation with stack := stack }
  ofExcept result

/-- Push a value. -/
def push (value : RemoteValue) : Evaluation Unit :=
  modify fun activation => { activation with stack := activation.stack.push value }

/-- Pop a value. -/
def pop : Evaluation RemoteValue :=
  onStack OperandStack.pop

/-- Run an evaluation from an activation. -/
def start (evaluation : Evaluation α) (activation : Activation) :
    Dialogue Inquiry Inquiry.Answer (Except Halt α × Activation) :=
  (ExceptT.run evaluation).run activation

end Evaluation

end FrameEval
