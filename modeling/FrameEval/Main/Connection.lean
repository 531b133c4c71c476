import FrameEval.Link.Switchboard
import FrameEval.Link.Waits
import FrameEval.Main.Waiting
import FrameEval.Remote.Errand
import FrameEval.Wire.Handshake
import Std.Async.DNS
import Std.Async.TCP
import Std.Sync.Channel

/-!
# A link over a socket

A thread of its own runs the switchboard of a connection.  Callers and the receiver of bytes
put letters into its mailbox; it lets each letter happen to the switchboard, writes what the
switchboard writes, and tells callers their results.
-/

namespace FrameEval.Main

open Std.Async Wire Link

/-- The promise of the result of a command. -/
abbrev Reception := IO.Promise (Except ClientError Reply)

instance : Nonempty (Except ClientError Reply) := ⟨.error .connectionClosed⟩

/-- A letter to the thread that runs a switchboard. -/
inductive Letter where
  /-- Send an order; the id of its command and, later, its result are promised. -/
  | send (order : Order) (id : IO.Promise PacketId) (reception : Reception)
  | giveUp (id : PacketId) (elapsed : Elapsed)
  | arrive (packet : Packet)
  | enter (thread : ThreadId)
  | leave (thread : ThreadId)
  | close

/-- A link to a target. -/
structure Connection where
  socket : TCP.Socket.Client
  waits : Waits
  mailbox : Std.CloseableChannel Letter
  /-- What is known about the types of the target. -/
  types : IO.Ref (Table TypeId Remote.TypeMetadata)

/-- A switchboard, and the callers that wait. -/
structure Operator where
  board : Switchboard
  receptions : Table PacketId Reception

/-- What the thread of a switchboard does. -/
abbrev Operating := StateT Operator IO

namespace Connection

/-- Write commands until one cannot be written. -/
def write (connection : Connection) : List Command → IO (Nat × Option String)
  | [] => return (0, none)
  | command :: rest => do
      let bytes := ByteArray.mk command.encode.toArray
      match ← (connection.socket.send bytes).block.toBaseIO with
      | .error error => return (0, some error.toString)
      | .ok () => do
          let (count, failure) ← connection.write rest
          return (count + 1, failure)

/-- Let something happen, and tell callers their results. -/
def happen (happening : Happening) : Operating Unit := do
  let (board, effects) := (← get).board.step happening
  modify fun operator => { operator with board := board }
  for effect in effects do
    if let .conclude id result := effect then
      if let some reception := (← get).receptions.find? id then
        modify fun operator => { operator with receptions := operator.receptions.erase id }
        reception.resolve result

/-- The commands that a packet makes a switchboard write; they are fewer than its bytes. -/
def consequences (board : Switchboard) (packet : Packet) : List Command :=
  (board.step (.arrive packet packet.bytes.length)).2.filterMap fun effect =>
    match effect with
    | .write command => some command
    | _ => none

/-- Act on a letter. -/
def receive (connection : Connection) : Letter → Operating Unit
  | .send order promisedId reception => do
      let id := (← get).board.nextId
      promisedId.resolve id
      modify fun operator => { operator with receptions := operator.receptions.insert id reception }
      happen (.draft order)
      happen (.submit id)
      let (_, failure) ← connection.write (← get).board.queue
      happen (.take failure)
  | .giveUp id elapsed => happen (.giveUp id elapsed)
  | .arrive packet => do
      let (count, _) ← connection.write (consequences (← get).board packet)
      happen (.arrive packet count)
  | .enter thread => happen (.enter thread)
  | .leave thread => happen (.leave thread)
  | .close => happen .close

/-- Act on letters until the mailbox is closed. -/
partial def operate (connection : Connection) : Operating Unit := do
  if let some letter ← connection.mailbox.sync.recv then
    connection.receive letter
    connection.operate

/-- Put a letter into the mailbox; one that was closed takes no more. -/
def post (connection : Connection) (letter : Letter) : BaseIO Bool :=
  connection.mailbox.trySend letter

/-- End a link.  Letters that are in the mailbox already are still acted on. -/
def finish (connection : Connection) : IO Unit := do
  let _ ← connection.post .close
  let _ ← connection.mailbox.close.toBaseIO
  let _ ← inBackground connection.socket.shutdown

/-- Cut what arrives into packets, until the stream ends or is no sequence of packets. -/
partial def listen (connection : Connection) (received : Bytes) : Async Unit := do
  let (packets, left) := Packet.cutAll received
  for packet in packets do
    let _ ← connection.post (.arrive packet)
  if (Packet.endError? left).isSome then connection.finish
  else
    let chunk ←
      try connection.socket.recv? 65536
      catch _ => pure none
    match chunk with
    | some bytes => connection.listen (left ++ bytes.toList)
    | none => connection.finish

/-- Receive so many bytes, at least one at a time. -/
def receiveExactly (socket : TCP.Socket.Client) : Nat → Async Bytes
  | 0 => return []
  | count + 1 => do
      match ← socket.recv? 1 with
      | some bytes => return bytes.toList ++ (← receiveExactly socket count)
      | none => throw (.userError "early eof")

/-- Open a socket to the first address that accepts. -/
def openSocket (port : UInt16) : List Std.Net.IPAddr → IO.Error → Async TCP.Socket.Client
  | [], failure => throw failure
  | address :: rest, _ => do
      let socket ← TCP.Socket.Client.mk
      let place : Std.Net.SocketAddress :=
        match address with
        | .v4 address => .v4 ⟨address, port⟩
        | .v6 address => .v6 ⟨address, port⟩
      try
        socket.connect place
        return socket
      catch failure => openSocket port rest failure

/-- Open a socket to a host. -/
def openHost (host : String) (port : UInt16) : Async TCP.Socket.Client := do
  let addresses ← DNS.getAddrInfo host ""
  openSocket port addresses.toList (.userError "could not resolve to any address")

/-- Greet a target, and read its greeting. -/
def greet (socket : TCP.Socket.Client) : Async Bytes := do
  try socket.noDelay catch _ => pure ()
  socket.send (ByteArray.mk Handshake.greeting.toArray)
  receiveExactly socket Handshake.greeting.length

/-- Do something within a bound. -/
def bounded {α : Type} (span : Elapsed) (work : Async α) : ExceptT ClientError IO α := do
  match ← firstWithin span [← inBackground work] with
  | some (.ok result) => return result
  | some (.error error) => throw (.io error.toString)
  | none => throw (.timeout span)

/-- Connect to a target and greet it. -/
def connect (host : String) (port : UInt16) (waits : Waits) :
    ExceptT ClientError IO Connection := do
  let socket ← bounded waits.handshake (openHost host port)
  let greeting ← bounded waits.handshake (greet socket)
  let () ← (Handshake.check greeting : Except ClientError Unit)
  let mailbox ← Std.CloseableChannel.new
  let types ← IO.mkRef .empty
  let connection : Connection := ⟨socket, waits, mailbox, types⟩
  let operator : Operator := ⟨.fresh waits.eventCapacity, .empty⟩
  let _ ← IO.asTask (connection.operate.run operator) .dedicated
  let _ ← inBackground (connection.listen [])
  return connection

/-- Send an order and wait for the result of its command, or for an interruption. -/
def send (connection : Connection) (order : Order) (interruptions : List (Task Unit)) :
    IO (Option (Except ClientError Reply)) := do
  let promisedId ← IO.Promise.new
  let reception : Reception ← IO.Promise.new
  if ← connection.post (.send order promisedId reception) then
    let result := reception.result!
    let span := connection.waits.limit order
    let replied := result.map some
    let interrupted := interruptions.map fun interruption => interruption.map fun () => none
    match ← firstWithin span (replied :: interrupted) with
    | some (some result) => return some result
    | outcome => do
        let _ ← connection.post (.giveUp (← IO.wait promisedId.result!) span)
        if outcome.isSome then return none
        else return some (← IO.wait result)
  else return some (.error .connectionClosed)

/-- The answer to what an errand asks; a wait for a reply may be interrupted. -/
def answer (connection : Connection) (interruptions : List (Task Unit)) :
    (request : Remote.Request) → IO (Option request.Answer)
  | .send order => connection.send order interruptions
  | .enter thread => do
      let _ ← connection.post (.enter thread)
      return some ()
  | .leave thread => do
      let _ ← connection.post (.leave thread)
      return some ()
  | .lookUp type => return some ((← connection.types.get).find? type)
  | .remember type metadata => do
      connection.types.modify fun types => types.insert type metadata
      return some ()

end Connection

end FrameEval.Main
