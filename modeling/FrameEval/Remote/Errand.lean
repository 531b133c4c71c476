import FrameEval.Evaluation.Basic
import FrameEval.Remote.TypeMetadata
import FrameEval.Wire.Call.Basic

/-!
# Errands over a link

What a target at the other end of a link is asked takes several calls.  An errand is the
dialogue of these calls with the link; it also marks threads as running an invocation, and
it recalls what it has learned about types before.
-/

namespace FrameEval.Remote

open Wire

/-- What an errand asks. -/
inductive Request where
  /-- Send an order and wait for the reply. -/
  | send (order : Order)
  /-- An invocation starts on a thread. -/
  | enter (thread : ThreadId)
  /-- An invocation on a thread is over. -/
  | leave (thread : ThreadId)
  /-- What is known about a type. -/
  | lookUp (type : TypeId)
  | remember (type : TypeId) (metadata : TypeMetadata)

/-- The answers to what an errand asks. -/
@[reducible]
def Request.Answer : Request → Type
  | send _ => Except ClientError Reply
  | enter _ => Unit
  | leave _ => Unit
  | lookUp _ => Option TypeMetadata
  | remember _ _ => Unit

/-- A dialogue with a link that may fail. -/
abbrev Errand (α : Type) := ExceptT Halt (Dialogue Request Request.Answer) α

namespace Errand

variable {α : Type}

def fail (error : EvalError) : Errand α :=
  throw (.failed error)

/-- Stop because a limit was reached. -/
def exhaust : Errand α :=
  throw .exhausted

/-- Go on with what could be split, or break off. -/
def orAbort : Option α → Errand α
  | some value => return value
  | none => throw .aborted

def ofExcept : Except EvalError α → Errand α
  | .ok value => return value
  | .error error => fail error

/-- Ask one question. -/
def ask (request : Request) : Errand request.Answer :=
  ExceptT.lift (Dialogue.query request)

/-- Make a call and return its result, be it an error. -/
def attempt (call : Call α) : Errand (Except ClientError α) := do
  let reply ← ask (.send call.order)
  return reply.bind call.conclude

/-- Make a call; an error of it is one of the errand. -/
def call (call : Call α) : Errand α := do
  match ← attempt call with
  | .ok value => return value
  | .error error => fail error.toEvalError

/-- Mark a thread as running an invocation while an errand runs, however the errand ends. -/
def invoking (thread : ThreadId) (errand : Errand α) : Errand α :=
  ExceptT.mk do
    Dialogue.query (Request.enter thread)
    let result ← errand.run
    Dialogue.query (Request.leave thread)
    return result

end Errand

end FrameEval.Remote
