import FrameEval.Json.Basic
import FrameEval.Remote.Answer
import FrameEval.Server.Query

/-!
# Evaluating over a link

A session program whose target is at the other end of a link: its operations become errands,
its reservations concern the threads of that target, and it is cancelled with the request.
The wait for a frame is given up when the request is cancelled; once the frame is bound, the
run itself watches for the cancellation.
-/

namespace FrameEval.Server

open Wire

/-- What a JSON value of a request is taken for. -/
inductive Shape where
  | introduction
  | toolCall
  | program
  deriving DecidableEq

/-- What the server is set up with: the bounds of runs and searches, which have none of their own,
and the words of its JSON decoder. -/
structure Setup where
  /-- How many instructions one program may run. -/
  steps : Nat
  /-- How many types one search of a type hierarchy may look at. -/
  search : Nat
  /-- What the decoder objects to a value that is not of a shape. -/
  objection : Shape → Json → String

namespace Setup

/-- How programs are run: with an eye on cancellation. -/
def mode (setup : Setup) : RunMode := ⟨true, setup.steps, setup.search⟩

/-- How targets are used: only the evaluating thread runs while code of the target runs. -/
def usage (setup : Setup) : Remote.Usage := ⟨true, setup.search⟩

end Setup

namespace Handling

variable {α : Type}

/-- The answer to what an evaluation asks. -/
def inquiry (setup : Setup) (link : LinkId) : (inquiry : Inquiry) → Handling inquiry.Answer
  | .operation operation => overLink link (Remote.answer setup.usage operation)
  | .cancelled => act .isCancelled

/-- Run a program of a session with a target at the other end of a link. -/
def session (setup : Setup) (link : LinkId) (program : Session.Program α) : Handling α :=
  program.substitute fun request =>
    match request with
    | .acquire thread => act (.acquire link thread)
    | .release thread => act (.release link thread)
    | .inquiry asked => inquiry setup link asked

/-- Bind a frame.  If the request is cancelled meanwhile the thread is given up. -/
def bind (setup : Setup) (link : LinkId) (thread : ThreadId) (depth : Nat) :
    Handling (Except Halt Context) := do
  match ← (session setup link (Session.bind thread depth)).unlessCancelled with
  | some bound => return bound
  | none => do
      act (.release link thread)
      return .error (.failed .cancelled)

/-- Run a program in a bound frame and describe its value. -/
def runAndDescribe (setup : Setup) (link : LinkId) (context : Context) (program : Program) :
    Handling (Except Halt String) := do
  let (result, context) ←
    (context.run setup.mode program).substitute (inquiry setup link)
  match result with
  | .error halt => return .error halt
  | .ok value => do
      let (text, _) ←
        (context.evaluate setup.search fun _ => Evaluation.describe value).substitute
          (inquiry setup link)
      return text

/-- Bind a frame, run a program in it, describe its value, and give up the thread. -/
def evaluate (setup : Setup) (link : LinkId) (thread : ThreadId) (depth : Nat)
    (program : Program) : Handling (Except Halt String) := do
  match ← bind setup link thread depth with
  | .error halt => return .error halt
  | .ok context => do
      let text ← runAndDescribe setup link context program
      act (.release link thread)
      return text

end Handling

end FrameEval.Server
