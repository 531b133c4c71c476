import FrameEval.EvalError
import FrameEval.Wire.ErrorCode

/-!
# Errors of a connection

Why a command to the target has no answer, and what each cause means to an evaluation:
a lost connection and a dead target both count as disconnected, a few codes name stale
handles and frames, and everything else is a protocol error.
-/

namespace FrameEval.Wire

/-- Why a command has no answer. -/
inductive ClientError where
  /-- The transport failed, in its own words. -/
  | io (detail : String)
  | protocol (detail : String)
  | invalidHandshake
  /-- The target refused the command. -/
  | refused (code : ErrorCode)
  | connectionClosed
  | timeout (elapsed : Elapsed)
  deriving DecidableEq

namespace ClientError

/-- The text of an error. -/
def message : ClientError → String
  | io detail => s!"IO error: {detail}"
  | protocol detail => s!"Protocol error: {detail}"
  | invalidHandshake => "Invalid handshake"
  | refused code => s!"JDWP error code {code.toNat}: {code.name}"
  | connectionClosed => "Connection closed"
  | timeout elapsed => s!"Timed out after {elapsed.display} waiting for reply"

/-- The code of a refused command. -/
def code? : ClientError → Option ErrorCode
  | refused code => some code
  | _ => none

/-- What a refusal means to an evaluation. -/
def evalErrorOfCode (code : ErrorCode) : EvalError :=
  if code = ErrorCode.targetDead then .disconnected
  else if code = ErrorCode.invalidObject then .staleHandle
  else if code = ErrorCode.invalidFrame ∨ code = ErrorCode.threadNotSuspended ∨
      code = ErrorCode.invalidThread then .staleFrame code.name
  else .protocol s!"JDWP error {code.toNat} ({code.name})"

/-- What an error means to an evaluation. -/
def toEvalError : ClientError → EvalError
  | connectionClosed => .disconnected
  | io _ => .disconnected
  | timeout elapsed => .timeout elapsed
  | refused code => evalErrorOfCode code
  | error@(protocol _) => .protocol error.message
  | error@invalidHandshake => .protocol error.message

end ClientError

end FrameEval.Wire
