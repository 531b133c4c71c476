import FrameEval.Wire.Bytes
import FrameEval.Text.Numeral
import FrameEval.Wire.ClientError

/-!
# Packets

A packet starts with its length, header included, and an id.  The client sends commands;
the target answers each with a reply of the same id, and sends commands of its own to
report events.  The flag byte tells a reply from a command.
-/

namespace FrameEval.Wire

/-- The number of bytes before the data of a packet. -/
def headerSize : Nat := 11

/-- The flag byte of a reply. -/
def replyFlag : UInt8 := 0x80

/-- The number of a packet, by which a reply finds its command. -/
abbrev PacketId := UInt32

/-- A command of the client. -/
structure Command where
  id : PacketId
  commandSet : UInt8
  command : UInt8
  data : Bytes
  deriving DecidableEq

/-- The bytes of a command. -/
def Command.encode (command : Command) : Bytes :=
  bigEndian 4 (headerSize + command.data.length) ++ bigEndian 4 command.id.toNat ++
    [0, command.commandSet, command.command] ++ command.data

/-- The answer of the target to a command. -/
structure Reply where
  id : PacketId
  code : ErrorCode
  data : Bytes
  deriving DecidableEq

namespace Reply

/-- The bytes of a reply. -/
def encode (reply : Reply) : Bytes :=
  bigEndian 4 (headerSize + reply.data.length) ++ bigEndian 4 reply.id.toNat ++
    [replyFlag] ++ bigEndian 2 reply.code.toNat ++ reply.data

/-- The reply that a whole packet holds; the length in its header is not looked at. -/
def decode (packet : Bytes) : Except ClientError Reply :=
  if packet.length < headerSize then .error (.protocol "Reply packet too short")
  else
    let flag := (packet.drop 8).headD 0
    if flag ≠ replyFlag then
      .error (.protocol ("Invalid reply flag: 0x" ++ Text.hex flag.toNat))
    else
      .ok {
        id := UInt32.ofNat (ofBigEndian ((packet.drop 4).take 4))
        code := UInt16.ofNat (ofBigEndian ((packet.drop 9).take 2))
        data := packet.drop headerSize }

/-- Whether the target refused the command. -/
def isRefusal (reply : Reply) : Bool :=
  reply.code ≠ 0

/-- The data of a reply that is no refusal. -/
def check (reply : Reply) : Except ClientError Bytes :=
  if reply.isRefusal then .error (.refused reply.code) else .ok reply.data

end Reply

end FrameEval.Wire
