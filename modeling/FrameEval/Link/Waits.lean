import FrameEval.Elapsed
import FrameEval.Wire.Call.Basic

/-!
# How long a link waits

The time that each kind of wait may take, and the number of event sets that may wait to be
received.
-/

namespace FrameEval.Link

open Wire

/-- The limits of a link. -/
structure Waits where
  handshake : Elapsed
  /-- For the reply to an ordinary command. -/
  reply : Elapsed
  /-- For the reply to a command that lets the target run code. -/
  invocation : Elapsed
  eventCapacity : Nat

namespace Waits

/-- The limits that hold unless others are asked for. -/
def standard : Waits where
  handshake := .ofSeconds 5
  reply := .ofSeconds 10
  invocation := .ofSeconds 30
  eventCapacity := 256

/-- How long the caller of an order waits. -/
def limit (waits : Waits) (order : Order) : Elapsed :=
  match order.patience with
  | .ordinary => waits.reply
  | .invocation => waits.invocation

end Waits

end FrameEval.Link
