import FrameEval.Wire.Packet

/-!
# Framing

How a stream of bytes is cut into packets.  The length at the start of a packet must lie
between the size of a header and ten mebibytes; the first other length, or the end of the
stream within a packet, ends the reading.
-/

namespace FrameEval.Wire

/-- The largest packet that is read. -/
def maximumPacket : Nat := 10 * 1024 * 1024

/-- A packet as it was cut from the stream. -/
structure Packet where
  isReply : Bool
  id : PacketId
  /-- The whole packet, header included. -/
  bytes : Bytes
  deriving DecidableEq

namespace Packet

/-- What the front of a stream holds. -/
inductive Cut where
  | packet (packet : Packet) (rest : Bytes)
  /-- The stream ends within a packet. -/
  | incomplete
  /-- The length of the next packet is out of bounds. -/
  | badLength (length : Nat)

/-- Cut one packet from the front of a stream. -/
def cut (stream : Bytes) : Cut :=
  if stream.length < headerSize then .incomplete
  else
    let length := ofBigEndian (stream.take 4)
    if length < headerSize ∨ maximumPacket < length then .badLength length
    else if stream.length < length then .incomplete
    else
      .packet
        { isReply := (stream.drop 8).headD 0 = replyFlag
          id := UInt32.ofNat (ofBigEndian ((stream.drop 4).take 4))
          bytes := stream.take length }
        (stream.drop length)

theorem cut_length {stream rest : Bytes} {packet : Packet}
    (taken : cut stream = .packet packet rest) :
    rest.length < stream.length := by
  unfold cut at taken
  split at taken
  · cases taken
  · dsimp only at taken
    split at taken
    · cases taken
    · split at taken
      · cases taken
      · cases taken
        simp only [List.length_drop, headerSize] at *
        omega

/-- The packets of a stream, and the bytes that are left when the reading ends. -/
def cutAll (stream : Bytes) : List Packet × Bytes :=
  match _taken : cut stream with
  | .packet packet rest =>
      let later := cutAll rest
      (packet :: later.1, later.2)
  | _ => ([], stream)
termination_by stream.length
decreasing_by exact cut_length _taken

/-- Why the reading ends before bytes that are left; the end of the stream is no error of it. -/
def endError? (left : Bytes) : Option ClientError :=
  match cut left with
  | .badLength length =>
      if length < headerSize then some (.protocol s!"Invalid packet length: {length}")
      else
        some (.protocol s!"Packet too large: {length} bytes (max: {maximumPacket} bytes)")
  | _ => none

end Packet

end FrameEval.Wire
