import FrameEval.Evaluation.Step

/-!
# Running a program

Instructions run in order until the program counter reaches the end of the program; the
stack must then hold exactly one value.  A run that watches for cancellation asks before
each instruction, so an operation that is under way is always finished.  An exception that
an invocation threw ends the run once it has been described.
-/

namespace FrameEval

/-- How a program may be run. -/
structure RunMode where
  /-- Whether to ask for cancellation before each instruction. -/
  watched : Bool
  /-- How many instructions may run. -/
  stepLimit : Nat
  /-- How many types one search of a type hierarchy may look at. -/
  searchLimit : Nat

namespace Evaluation

/-- Stop with the exception that an invocation threw, if one did. -/
def raiseThrown (setting : Setting) : Evaluation Unit := do
  let activation ← get
  match activation.stack.takeException with
  | (none, _) => return
  | (some exception, stack) =>
      set { activation with stack := stack }
      let description ← exceptionDescription setting exception
      fail (.remoteException description exception.id)

/-- The program counter after an instruction. -/
def advance (length counter : Nat) : Flow → Except EvalError Nat
  | .next => .ok (counter + 1)
  | .jump target =>
      if target ≤ length then .ok target
      else
        .error (.malformedSequence s!"jump from {counter} to {target} outside 0..={length}")

/-- Stop if the evaluation was cancelled; only a run that is watched asks. -/
def heedCancellation (watched : Bool) : Evaluation Unit :=
  if watched then do
    if ← inquire .cancelled then fail .cancelled
  else return

/-- One turn of a run: an instruction, the exception it may have left, the next counter. -/
def turn (setting : Setting) (length : Nat) (watched : Bool) (counter : Nat)
    (instruction : Instruction) : Evaluation Nat := do
  heedCancellation watched
  let flow ← step setting instruction
  raiseThrown setting
  ofExcept (advance length counter flow)

/-- Run a program from a program counter on. -/
def runFrom (setting : Setting) (program : Program) (watched : Bool) :
    Nat → Nat → Evaluation RemoteValue
  | limit, counter =>
      match program[counter]? with
      | none => do ofExcept (← get).stack.result
      | some instruction =>
          match limit with
          | 0 => exhaust
          | limit + 1 => do
              let counter ← turn setting program.length watched counter instruction
              runFrom setting program watched limit counter

end Evaluation

namespace Context

/-- Run an evaluation in a context; the context keeps the id that its frame then has. -/
def evaluate {α : Type} (context : Context) (searchLimit : Nat)
    (evaluation : Setting → Evaluation α) :
    Dialogue Inquiry Inquiry.Answer (Except Halt α × Context) := do
  let activation : Activation := ⟨context.frameId, .empty⟩
  let (result, after) ← (evaluation ⟨context.binding, searchLimit⟩).start activation
  return (result, { context with frameId := after.frameId })

/-- Run a program in a context from an empty operand stack. -/
def run (context : Context) (mode : RunMode) (program : Program) :
    Dialogue Inquiry Inquiry.Answer (Except Halt RemoteValue × Context) :=
  context.evaluate mode.searchLimit fun setting =>
    Evaluation.runFrom setting program mode.watched mode.stepLimit 0

end Context

/-- The life of an interpreter, which runs once. -/
inductive InterpreterState where
  | ready
  | completed
  | failed
  deriving DecidableEq

namespace InterpreterState

def name : InterpreterState → String
  | ready => "Ready"
  | completed => "Completed"
  | failed => "Failed"

/-- Run a program with an interpreter in a given state. -/
def run (state : InterpreterState) (context : Context) (mode : RunMode) (program : Program) :
    Dialogue Inquiry Inquiry.Answer (Except Halt RemoteValue × InterpreterState × Context) :=
  match state with
  | ready => do
      let (result, context) ← context.run mode program
      match result with
      | .ok value => return (.ok value, completed, context)
      | .error halt => return (.error halt, failed, context)
  | spent =>
      return (.error (.failed (.malformedSequence
        s!"interpreter is {spent.name}, not ready")), spent, context)

end InterpreterState

end FrameEval
