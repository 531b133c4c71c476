import FrameEval.Link.EventQueue
import FrameEval.Link.Resumption
import FrameEval.Wire.Framing

/-!
# The switchboard of a link

Many callers share one link.  A caller drafts a command, which draws an id from a common
counter, and submits it; the switchboard takes the submitted commands one after another,
writes them and remembers their ids.  A reply goes to the caller whose command has its id,
if that caller still waits.  An event set is offered to whoever receives events, unless it
arises from a running invocation, in which case the switchboard resumes the thread by
commands of its own, whose replies concern nobody.

The callers, the transport and the target decide what happens next, so every order of
happenings is a run; `step` says what each does to the switchboard.
-/

namespace FrameEval.Link

open Wire

/-- The state of a link. -/
structure Switchboard where
  /-- The id of the next command. -/
  nextId : PacketId
  /-- The commands that have an id and were not submitted. -/
  drafts : List Command
  /-- The submitted commands that were not taken, oldest first. -/
  queue : List Command
  /-- The ids of the commands whose callers wait. -/
  waiting : List PacketId
  /-- The ids of the written commands of callers that have no reply. -/
  pending : List PacketId
  /-- The ids of the written commands of the switchboard itself that have no reply. -/
  resumes : List PacketId
  invoking : InvokingThreads
  events : EventQueue
  isOpen : Bool

/-- What happens to a link. -/
inductive Happening where
  /-- A caller draws an id for a command. -/
  | draft (order : Order)
  /-- A caller hands over its command and waits from now on. -/
  | submit (id : PacketId)
  /-- The oldest submitted command is written, unless the transport fails. -/
  | take (failure : Option String)
  /-- The time of a waiting caller is up. -/
  | giveUp (id : PacketId) (elapsed : Elapsed)
  /-- A packet arrives; so many commands can be written before the transport fails. -/
  | arrive (packet : Packet) (writable : Nat)
  | enter (thread : ThreadId)
  | leave (thread : ThreadId)
  /-- Somebody asks for the oldest event set. -/
  | receive
  /-- The transport is gone, or nobody can submit commands any more. -/
  | close

/-- What a link does to its surroundings. -/
inductive Effect where
  /-- A command is written to the target. -/
  | write (command : Command)
  /-- A caller gets the result of its command. -/
  | conclude (id : PacketId) (result : Except ClientError Reply)
  /-- An event set is offered to those who receive events. -/
  | offer (set : EventSet)
  /-- An event set is kept from them. -/
  | swallow (set : EventSet)
  /-- An event set is received. -/
  | receive (set : EventSet)

namespace Switchboard

/-- A fresh link, which numbers its commands from one. -/
def fresh (eventCapacity : Nat) : Switchboard where
  nextId := 1
  drafts := []
  queue := []
  waiting := []
  pending := []
  resumes := []
  invoking := .empty
  events := .empty eventCapacity
  isOpen := true

/-- Tell a caller the result of its command, if it still waits. -/
def conclude (id : PacketId) (result : Except ClientError Reply) (board : Switchboard) :
    Switchboard × List Effect :=
  if id ∈ board.waiting then
    ({ board with waiting := board.waiting.erase id }, [.conclude id result])
  else (board, [])

/-- Draw an id for a command. -/
def draft (order : Order) (board : Switchboard) : Switchboard :=
  { board with
    nextId := board.nextId + 1
    drafts := board.drafts ++ [order.withId board.nextId] }

/-- Hand over a drafted command. -/
def submit (id : PacketId) (board : Switchboard) : Switchboard × List Effect :=
  match board.drafts.find? fun command => command.id = id with
  | none => (board, [])
  | some command =>
      let board := { board with drafts := board.drafts.filter fun draft => draft.id ≠ id }
      if board.isOpen then
        ({ board with
            queue := board.queue ++ [command]
            waiting := board.waiting.insert id }, [])
      else (board, [.conclude id (.error .connectionClosed)])

/-- Write the oldest submitted command and wait for its reply; callers that gave up are
forgotten on this occasion. -/
def take (failure : Option String) (board : Switchboard) : Switchboard × List Effect :=
  match board.queue with
  | [] => (board, [])
  | command :: rest =>
      let board := { board with queue := rest }
      match failure with
      | some detail => board.conclude command.id (.error (.io detail))
      | none =>
          let stillWanted := board.pending.filter fun id => id ∈ board.waiting
          ({ board with pending := stillWanted.insert command.id }, [.write command])

/-- A reply arrives. -/
def reply (packet : Packet) (board : Switchboard) : Switchboard × List Effect :=
  if packet.id ∈ board.pending then
    { board with pending := board.pending.erase packet.id }.conclude packet.id
      (Reply.decode packet.bytes)
  else ({ board with resumes := board.resumes.erase packet.id }, [])

/-- Give consecutive ids to orders. -/
def number (first : PacketId) : List Order → List Command
  | [] => []
  | order :: rest => order.withId first :: number (first + 1) rest

/-- Undo the suspension of an event set.  Only if every command can be written are their
replies expected. -/
def resume (set : EventSet) (writable : Nat) (board : Switchboard) :
    Switchboard × List Effect :=
  let commands := number board.nextId (resumption set)
  let board := { board with nextId := board.nextId + UInt32.ofNat commands.length }
  let board :=
    if commands.length ≤ writable then
      { board with resumes := board.resumes ++ commands.map Command.id }
    else board
  (board, .swallow set :: (commands.take writable).map .write)

/-- The kind of the command by which the target reports events. -/
def eventCommand : UInt8 := 100

/-- A command of the target arrives.  Only reports of events are looked at. -/
def report (packet : Packet) (writable : Nat) (board : Switchboard) :
    Switchboard × List Effect :=
  if (packet.bytes.drop 9).take 2 ≠ [CommandSet.event, eventCommand] then (board, [])
  else
    match EventSet.ofBytes (packet.bytes.drop headerSize) with
    | .error _ => (board, [])
    | .ok set =>
        if arisesFromInvocation board.invoking set then board.resume set writable
        else ({ board with events := board.events.offer set }, [.offer set])

/-- The link ends: whoever waits is told so. -/
def close (board : Switchboard) : Switchboard × List Effect :=
  if board.isOpen then
    ({ board with queue := [], waiting := [], pending := [], isOpen := false },
      board.waiting.map fun id => .conclude id (.error .connectionClosed))
  else (board, [])

/-- What a happening does. -/
def step (board : Switchboard) : Happening → Switchboard × List Effect
  | .draft order => (board.draft order, [])
  | .submit id => board.submit id
  | .take failure => if board.isOpen then board.take failure else (board, [])
  | .giveUp id elapsed => board.conclude id (.error (.timeout elapsed))
  | .arrive packet writable =>
      if board.isOpen then
        if packet.isReply then board.reply packet else board.report packet writable
      else (board, [])
  | .enter thread => ({ board with invoking := board.invoking.enter thread }, [])
  | .leave thread => ({ board with invoking := board.invoking.leave thread }, [])
  | .receive =>
      let (set, events) := board.events.receive
      ({ board with events := events }, (set.map Effect.receive).toList)
  | .close => board.close

/-- What happenings do, one after another. -/
def run (board : Switchboard) : List Happening → Switchboard × List Effect
  | [] => (board, [])
  | happening :: rest =>
      let (board, effects) := board.step happening
      let (board, later) := board.run rest
      (board, effects ++ later)

end Switchboard

end FrameEval.Link
