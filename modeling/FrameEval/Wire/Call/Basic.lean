import FrameEval.Wire.Packet
import FrameEval.Wire.Reader
import FrameEval.Wire.Writer

/-!
# Calls

A call is a command together with the way to read its reply.  The command gets its id only
when it is sent, so the same call may be made many times.

What a reply means depends on nothing but the call and the reply: a refusal is an error,
and so is a reply that ends before everything was read.  Bytes after that are ignored.
-/

namespace FrameEval.Wire

/-- How long a caller waits for a reply. -/
inductive Patience where
  | ordinary
  /-- As long as code of the target may run before the target replies. -/
  | invocation
  deriving DecidableEq

/-- A command without its id. -/
structure Order where
  commandSet : UInt8
  command : UInt8
  data : Bytes
  patience : Patience
  deriving DecidableEq

/-- The command that an order becomes when it is sent. -/
def Order.withId (order : Order) (id : PacketId) : Command where
  id := id
  commandSet := order.commandSet
  command := order.command
  data := order.data

namespace CommandSet

def target : UInt8 := 1

def referenceType : UInt8 := 2

def classType : UInt8 := 3

def arrayType : UInt8 := 4

def method : UInt8 := 6

def object : UInt8 := 9

def string : UInt8 := 10

def thread : UInt8 := 11

def array : UInt8 := 13

def frame : UInt8 := 16

/-- The set of the commands by which the target reports events. -/
def event : UInt8 := 64

end CommandSet

/-- An order and the way to read the data of its reply. -/
structure Call (α : Type) where
  order : Order
  answer : Reader α

namespace Call

variable {α : Type}

/-- A call that the target answers without running code. -/
def plain (commandSet command : UInt8) (data : Bytes) (answer : Reader α) : Call α where
  order := ⟨commandSet, command, data, .ordinary⟩
  answer := answer

/-- A call that is answered after code of the target has run. -/
def running (commandSet command : UInt8) (data : Bytes) (answer : Reader α) : Call α where
  order := ⟨commandSet, command, data, .invocation⟩
  answer := answer

/-- What a reply means to a call. -/
def conclude (call : Call α) (reply : Reply) : Except ClientError α := do
  let data ← reply.check
  call.answer.run data

end Call

end FrameEval.Wire
