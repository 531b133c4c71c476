import FrameEval.Proofs.Wire.Reading
import FrameEval.Wire.Framing

/-!
# Packet framing

A frame is whole when its length field counts its own bytes.  No whole frame is a proper prefix of
another one, so a stream has at most one division into whole frames and a remainder that starts
with none, and this is the division that the reading finds.  What is sent is made of whole frames;
hence it is read back packet by packet.
-/

namespace FrameEval.Wire

/-! ## Whole frames -/

/-- The number in the length field at the front of a stream. -/
def statedLength (stream : Bytes) : Nat :=
  ofBigEndian (stream.take 4)

/-- Bytes that make up a whole frame of a size that is read. -/
structure WholeFrame (bytes : Bytes) : Prop where
  headed : headerSize ≤ bytes.length
  bounded : bytes.length ≤ maximumPacket
  counted : statedLength bytes = bytes.length

/-- Why no whole frame starts a stream. -/
inductive NoFrame (stream : Bytes) : Prop
  | shortHeader (short : stream.length < headerSize)
  | badLength (bad : statedLength stream < headerSize ∨ maximumPacket < statedLength stream)
  | shortFrame (short : stream.length < statedLength stream)

/-- The packet that a whole frame holds. -/
def Packet.ofFrame (bytes : Bytes) : Packet where
  isReply := (bytes.drop 8).headD 0 = replyFlag
  id := UInt32.ofNat (ofBigEndian ((bytes.drop 4).take 4))
  bytes := bytes

variable {bytes stream rest left : Bytes} {packet : Packet} {frames : List Bytes}

theorem statedLength_append
    (headed : headerSize ≤ bytes.length) :
    statedLength (bytes ++ rest) = statedLength bytes := by
  have enough : 4 ≤ bytes.length := Nat.le_trans (by decide) headed
  unfold statedLength
  rw [List.take_append_of_le_length enough]

theorem WholeFrame.not_noFrame
    (whole : WholeFrame bytes) (rest : Bytes) :
    ¬ NoFrame (bytes ++ rest) := by
  have counted : statedLength (bytes ++ rest) = bytes.length :=
    (statedLength_append whole.headed).trans whole.counted
  have longer : bytes.length ≤ (bytes ++ rest).length := by
    rw [List.length_append]
    exact Nat.le_add_right _ _
  have headed := whole.headed
  have bounded := whole.bounded
  intro none
  cases none with
  | shortHeader short => omega
  | badLength bad => omega
  | shortFrame short => omega

/-- A stream starts with a whole frame or there is a reason why it does not. -/
theorem exists_wholeFrame_or_noFrame (stream : Bytes) :
    (∃ bytes rest, WholeFrame bytes ∧ stream = bytes ++ rest) ∨ NoFrame stream := by
  by_cases headed : stream.length < headerSize
  · exact .inr (.shortHeader headed)
  by_cases bad : statedLength stream < headerSize ∨ maximumPacket < statedLength stream
  · exact .inr (.badLength bad)
  by_cases short : stream.length < statedLength stream
  · exact .inr (.shortFrame short)
  have length : (stream.take (statedLength stream)).length = statedLength stream :=
    List.length_take_of_le (Nat.le_of_not_lt short)
  have headed : headerSize ≤ (stream.take (statedLength stream)).length := by omega
  refine .inl ⟨stream.take (statedLength stream), stream.drop (statedLength stream), ?_,
    (List.take_append_drop _ _).symm⟩
  refine { headed := headed, bounded := by omega, counted := ?counted }
  case counted =>
    have same : statedLength (_ ++ stream.drop (statedLength stream)) = _ :=
      statedLength_append headed
    rw [List.take_append_drop] at same
    rw [length, ← same]

namespace Packet

/-! ## Cutting one frame -/

theorem ofFrame_append
    (headed : headerSize ≤ bytes.length) :
    ofFrame bytes =
      { isReply := ((bytes ++ rest).drop 8).headD 0 = replyFlag
        id := UInt32.ofNat (ofBigEndian (((bytes ++ rest).drop 4).take 4))
        bytes := bytes } := by
  have enough : 11 ≤ bytes.length := headed
  obtain ⟨flag, data, opened⟩ : ∃ flag data, bytes.drop 8 = flag :: data := by
    apply List.exists_cons_of_length_pos
    rw [List.length_drop]
    omega
  have id : ((bytes ++ rest).drop 4).take 4 = (bytes.drop 4).take 4 := by
    rw [List.drop_append_of_le_length (by omega), List.take_append_of_le_length]
    rw [List.length_drop]
    omega
  rw [List.drop_append_of_le_length (by omega), opened, id]
  unfold ofFrame
  rw [opened]
  rfl

theorem map_bytes_ofFrame (frames : List Bytes) :
    (frames.map ofFrame).map Packet.bytes = frames := by
  rw [List.map_map]
  exact List.map_id frames

/-- A whole frame is cut off whatever follows it. -/
theorem cut_append
    (whole : WholeFrame bytes) :
    cut (bytes ++ rest) = .packet (ofFrame bytes) rest := by
  have counted : statedLength (bytes ++ rest) = bytes.length :=
    (statedLength_append whole.headed).trans whole.counted
  have starts := whole.not_noFrame rest
  unfold cut
  rw [if_neg fun short => starts (.shortHeader short)]
  dsimp only
  rw [← statedLength, if_neg fun bad => starts (.badLength bad),
    if_neg fun short => starts (.shortFrame short), counted, List.take_left, List.drop_left,
    ← ofFrame_append whole.headed]

theorem cut_ne_packet
    (none : NoFrame stream) :
    cut stream ≠ .packet packet rest := by
  intro taken
  unfold cut at taken
  split at taken
  · cases taken
  next headed =>
    dsimp only at taken
    split at taken
    · cases taken
    next inBounds =>
      split at taken
      · cases taken
      next enough =>
        cases none with
        | shortHeader short => exact headed short
        | badLength bad => exact inBounds bad
        | shortFrame short => exact enough short

/-! ## Cutting a stream -/

theorem cutAll_append
    (whole : WholeFrame bytes) :
    cutAll (bytes ++ rest) = (ofFrame bytes :: (cutAll rest).1, (cutAll rest).2) := by
  rw [cutAll]
  split
  · next packet other taken =>
      rw [cut_append whole] at taken
      cases taken
      rfl
  · next refused => exact (refused _ _ (cut_append whole)).elim

theorem cutAll_of_noFrame
    (none : NoFrame stream) :
    cutAll stream = ([], stream) := by
  rw [cutAll]
  split
  · next packet other taken => exact (cut_ne_packet none taken).elim
  · rfl

theorem cutAll_flatten_append
    (whole : ∀ frame ∈ frames, WholeFrame frame) :
    cutAll (frames.flatten ++ left) = (frames.map ofFrame ++ (cutAll left).1, (cutAll left).2) := by
  induction frames with
  | nil => rfl
  | cons frame frames ih =>
      obtain ⟨first, later⟩ := List.forall_mem_cons.1 whole
      rw [List.flatten_cons, List.append_assoc, cutAll_append first, ih later]
      rfl

end Packet

/-- A stream divided into whole frames and a remainder that starts with none. -/
structure Division (stream : Bytes) (frames : List Bytes) (left : Bytes) : Prop where
  joined : stream = frames.flatten ++ left
  whole : ∀ frame ∈ frames, WholeFrame frame
  last : NoFrame left

theorem exists_division (stream : Bytes) : ∃ frames left, Division stream frames left := by
  -- The remainder after a whole frame is shorter, as a frame has a header.
  induction shorter : stream.length using Nat.strongRecOn generalizing stream with
  | ind length ih =>
      obtain ⟨bytes, rest, whole, rfl⟩ | none := exists_wholeFrame_or_noFrame stream
      · have headed : 11 ≤ bytes.length := whole.headed
        rw [List.length_append] at shorter
        obtain ⟨frames, left, later⟩ := ih rest.length (by omega) rest rfl
        refine ⟨bytes :: frames, left, ?_⟩
        refine
          { joined := by rw [List.flatten_cons, List.append_assoc, ← later.joined]
            whole := List.forall_mem_cons.2 ⟨whole, later.whole⟩
            last := later.last }
      · exact ⟨[], stream, rfl, fun _ none => (List.not_mem_nil none).elim, none⟩

theorem Division.cutAll_eq
    (division : Division stream frames left) :
    Packet.cutAll stream = (frames.map Packet.ofFrame, left) := by
  rw [division.joined, Packet.cutAll_flatten_append division.whole,
    Packet.cutAll_of_noFrame division.last, List.append_nil]

/-- The whole frames of a division are as many as the stream starts with. -/
theorem Division.longest
    (division : Division stream frames left) {others : List Bytes}
    (whole : ∀ frame ∈ others, WholeFrame frame) (starts : others.flatten <+: stream) :
    others <+: frames := by
  obtain ⟨rest, rfl⟩ := starts
  have found := congrArg Prod.fst division.cutAll_eq
  rw [Packet.cutAll_flatten_append whole] at found
  have same := congrArg (List.map Packet.bytes) found
  rw [List.map_append, Packet.map_bytes_ofFrame, Packet.map_bytes_ofFrame] at same
  exact ⟨(Packet.cutAll rest).1.map Packet.bytes, same⟩

/-! ## Sent packets -/

/-- A packet that one of the two parties sends. -/
inductive SentPacket where
  | command (command : Command)
  | reply (reply : Reply)
  deriving DecidableEq

namespace SentPacket

/-- The bytes of a packet. -/
def encode : SentPacket → Bytes
  | .command packet => packet.encode
  | .reply packet => packet.encode

/-- The packet as the other party finds it. -/
def received : SentPacket → Packet
  | .command packet => ⟨false, packet.id, packet.encode⟩
  | .reply packet => ⟨true, packet.id, packet.encode⟩

end SentPacket

/-! ## The bytes of packets -/

/-- The bytes of a packet with any flag, whatever the two bytes before its data stand for. -/
def assembled (id : PacketId) (flag : UInt8) (pair data : Bytes) : Bytes :=
  bigEndian 4 (headerSize + data.length) ++ (bigEndian 4 id.toNat ++ ([flag] ++ (pair ++ data)))

section Assembled

variable (id : PacketId) (flag : UInt8) {pair : Bytes} (data : Bytes)

theorem Command.encode_eq_assembled (command : Command) :
    command.encode = assembled command.id 0 [command.commandSet, command.command] command.data := by
  simp [Command.encode, assembled]

theorem Reply.encode_eq_assembled (reply : Reply) :
    reply.encode = assembled reply.id replyFlag (bigEndian 2 reply.code.toNat) reply.data := by
  simp [Reply.encode, assembled]

theorem length_assembled
    (two : pair.length = 2) :
    (assembled id flag pair data).length = headerSize + data.length := by
  simp only [assembled, List.length_append, length_bigEndian, List.length_singleton, two,
    headerSize]
  omega

theorem drop_four_assembled :
    (assembled id flag pair data).drop 4 = bigEndian 4 id.toNat ++ ([flag] ++ (pair ++ data)) :=
  List.drop_left' (length_bigEndian _ _)

theorem take_drop_four_assembled :
    ((assembled id flag pair data).drop 4).take 4 = bigEndian 4 id.toNat := by
  rw [drop_four_assembled]
  exact List.take_left' (length_bigEndian _ _)

theorem drop_eight_assembled :
    (assembled id flag pair data).drop 8 = flag :: (pair ++ data) := by
  rw [show 8 = 4 + 4 from rfl, ← List.drop_drop, drop_four_assembled]
  exact List.drop_left' (length_bigEndian _ _)

theorem drop_nine_assembled :
    (assembled id flag pair data).drop 9 = pair ++ data := by
  rw [show 9 = 8 + 1 from rfl, ← List.drop_drop, drop_eight_assembled]
  rfl

theorem drop_header_assembled
    (two : pair.length = 2) :
    (assembled id flag pair data).drop headerSize = data := by
  rw [show headerSize = 9 + 2 from rfl, ← List.drop_drop, drop_nine_assembled]
  exact List.drop_left' two

theorem statedLength_assembled
    (small : headerSize + data.length ≤ maximumPacket) :
    statedLength (assembled id flag pair data) = headerSize + data.length := by
  have taken : (assembled id flag pair data).take 4 = bigEndian 4 (headerSize + data.length) :=
    List.take_left' (length_bigEndian _ _)
  unfold statedLength
  rw [taken, ofBigEndian_bigEndian]
  exact Nat.mod_eq_of_lt (Nat.lt_of_le_of_lt small (by decide))

theorem wholeFrame_assembled
    (two : pair.length = 2) (small : (assembled id flag pair data).length ≤ maximumPacket) :
    WholeFrame (assembled id flag pair data) := by
  have length := length_assembled id flag data two
  refine { headed := ?headed, bounded := small, counted := ?counted }
  case headed => omega
  case counted =>
    rw [length] at small ⊢
    exact statedLength_assembled id flag data small

theorem ofNat_ofBigEndian_id :
    UInt32.ofNat (ofBigEndian (bigEndian 4 id.toNat)) = id := by
  rw [ofBigEndian_bigEndian, Nat.mod_eq_of_lt id.toNat_lt, UInt32.ofNat_toNat]

theorem ofFrame_assembled :
    Packet.ofFrame (assembled id flag pair data) =
      ⟨flag = replyFlag, id, assembled id flag pair data⟩ := by
  unfold Packet.ofFrame
  rw [take_drop_four_assembled, drop_eight_assembled, ofNat_ofBigEndian_id]
  rfl

end Assembled

namespace SentPacket

variable (packet : SentPacket)

theorem exists_assembled :
    ∃ flag pair data, pair.length = 2 ∧
      packet.encode = assembled packet.received.id flag pair data ∧
      packet.received.isReply = decide (flag = replyFlag) := by
  cases packet with
  | command packet => exact ⟨0, _, packet.data, rfl, packet.encode_eq_assembled, rfl⟩
  | reply packet => exact ⟨replyFlag, _, packet.data, rfl, packet.encode_eq_assembled, rfl⟩

theorem wholeFrame
    (small : packet.encode.length ≤ maximumPacket) :
    WholeFrame packet.encode := by
  obtain ⟨flag, pair, data, two, laid, -⟩ := packet.exists_assembled
  rw [laid] at small ⊢
  exact wholeFrame_assembled _ flag data two small

theorem ofFrame_encode : Packet.ofFrame packet.encode = packet.received := by
  obtain ⟨flag, pair, data, two, laid, isReply⟩ := packet.exists_assembled
  have bytes : packet.received.bytes = packet.encode := by
    cases packet <;> rfl
  rw [laid, ofFrame_assembled, ← laid, ← isReply, ← bytes]

end SentPacket

/-! ## Replies -/

/-- The bytes that a receiver looks at beyond the front of a header. -/
theorem WholeFrame.exists_eq_append
    (whole : WholeFrame bytes) :
    ∃ header second third payload, header.length = 9 ∧
      bytes = header ++ second :: third :: payload := by
  have headed : 11 ≤ bytes.length := whole.headed
  obtain ⟨second, more, opened⟩ : ∃ second more, bytes.drop 9 = second :: more := by
    apply List.exists_cons_of_length_pos
    rw [List.length_drop]
    omega
  obtain ⟨third, payload, rfl⟩ : ∃ third payload, more = third :: payload := by
    apply List.exists_cons_of_length_pos
    have length := congrArg List.length opened
    rw [List.length_drop, List.length_cons] at length
    omega
  refine ⟨bytes.take 9, second, third, payload, List.length_take_of_le (by omega), ?_⟩
  rw [← opened, List.take_append_drop]

/-- A frame with the flag of a reply holds one. -/
theorem WholeFrame.decode_eq_ok
    (whole : WholeFrame bytes) (isReply : (Packet.ofFrame bytes).isReply = true) :
    Reply.decode bytes =
      .ok
        { id := (Packet.ofFrame bytes).id
          code := UInt16.ofNat (ofBigEndian ((bytes.drop 9).take 2))
          data := bytes.drop headerSize } := by
  have flag : (bytes.drop 8).headD 0 = replyFlag := of_decide_eq_true isReply
  unfold Reply.decode
  rw [if_neg (Nat.not_lt.2 whole.headed)]
  dsimp only
  rw [if_neg (not_not_intro flag)]
  rfl

theorem Reply.decode_encode
    (reply : Reply) (small : reply.encode.length ≤ maximumPacket) :
    Reply.decode reply.encode = .ok reply := by
  have whole : WholeFrame reply.encode := (SentPacket.reply reply).wholeFrame small
  have frame : Packet.ofFrame reply.encode = ⟨true, reply.id, reply.encode⟩ :=
    (SentPacket.reply reply).ofFrame_encode
  have code : (reply.encode.drop 9).take 2 = bigEndian 2 reply.code.toNat := by
    rw [reply.encode_eq_assembled, drop_nine_assembled]
    exact List.take_left' (length_bigEndian _ _)
  have data : reply.encode.drop headerSize = reply.data := by
    rw [reply.encode_eq_assembled]
    exact drop_header_assembled _ _ _ (length_bigEndian _ _)
  rw [whole.decode_eq_ok (by rw [frame]), frame, code, data, ofBigEndian_bigEndian,
    Nat.mod_eq_of_lt reply.code.toNat_lt, UInt16.ofNat_toNat]

/-! ## Framing -/

/-- How a stream is taken apart into packets. -/
structure Framing (stream : Bytes) (packets : List Packet) (left : Bytes) : Prop where
  joined : stream = (packets.map Packet.bytes).flatten ++ left
  whole : ∀ packet ∈ packets, WholeFrame packet.bytes
  faithful : ∀ packet ∈ packets, packet = Packet.ofFrame packet.bytes
  /-- No longer run of whole frames starts the stream. -/
  longest : ∀ frames, (∀ frame ∈ frames, WholeFrame frame) → frames.flatten <+: stream →
    frames <+: packets.map Packet.bytes
  stops : NoFrame left
  /-- Whoever receives a packet finds the two bytes before the data of it. -/
  readable : ∀ packet ∈ packets, ∃ header second third payload, header.length = 9 ∧
    packet.bytes = header ++ second :: third :: payload
  /-- What has the flag of a reply is one. -/
  decodes : ∀ packet ∈ packets, packet.isReply = true →
    ∃ reply, Reply.decode packet.bytes = .ok reply ∧ reply.id = packet.id

theorem Division.framing
    (division : Division stream frames left) :
    Framing stream (frames.map Packet.ofFrame) left := by
  refine
    { joined := ?joined, whole := ?whole, faithful := ?faithful, longest := ?longest
      stops := division.last, readable := ?readable, decodes := ?decodes }
  case joined =>
    rw [Packet.map_bytes_ofFrame]
    exact division.joined
  case whole => exact List.forall_mem_map.2 division.whole
  case faithful => exact List.forall_mem_map.2 fun _ _ => rfl
  case longest =>
    intro others whole starts
    rw [Packet.map_bytes_ofFrame]
    exact division.longest whole starts
  case readable =>
    exact List.forall_mem_map.2 fun frame member => (division.whole frame member).exists_eq_append
  case decodes =>
    exact List.forall_mem_map.2 fun frame member isReply =>
      ⟨_, (division.whole frame member).decode_eq_ok isReply, rfl⟩

theorem framing_cutAll (stream : Bytes) :
    Framing stream (Packet.cutAll stream).1 (Packet.cutAll stream).2 := by
  obtain ⟨frames, left, division⟩ := exists_division stream
  rw [division.cutAll_eq]
  exact division.framing

theorem cutAll_sent
    {sent : List SentPacket} (small : ∀ packet ∈ sent, packet.encode.length ≤ maximumPacket) :
    Packet.cutAll (sent.flatMap SentPacket.encode) = (sent.map SentPacket.received, []) := by
  have division :
      Division (sent.flatMap SentPacket.encode) (sent.map SentPacket.encode) [] := by
    refine { joined := ?joined, whole := ?whole, last := .shortHeader (by decide) }
    case joined =>
      rw [List.append_nil]
      exact List.flatMap_def
    case whole =>
      exact List.forall_mem_map.2 fun packet member => packet.wholeFrame (small packet member)
  rw [division.cutAll_eq, List.map_map]
  exact congrArg (·, []) (List.map_congr_left fun packet _ => packet.ofFrame_encode)

/-- Packets of a size that is read come out as they were sent, whatever they are, and any stream
at all is cut into its whole frames up to the first place where none starts. -/
theorem packets_are_framed :
    (∀ sent : List SentPacket, (∀ packet ∈ sent, packet.encode.length ≤ maximumPacket) →
      Packet.cutAll (sent.flatMap SentPacket.encode) = (sent.map SentPacket.received, []) ∧
        ∀ reply, .reply reply ∈ sent →
          Reply.decode (SentPacket.reply reply).received.bytes = .ok reply) ∧
      ∀ stream, Framing stream (Packet.cutAll stream).1 (Packet.cutAll stream).2 := by
  refine ⟨?sent, framing_cutAll⟩
  intro sent small
  refine ⟨cutAll_sent small, ?_⟩
  intro reply member
  exact reply.decode_encode (small _ member)

/-- A command and the refusal of it. -/
def refusedExchange : List SentPacket :=
  [.command ⟨7, 1, 9, [1, 2]⟩, .reply ⟨7, ErrorCode.targetDead, []⟩]

theorem refused_exchange_is_framed :
    Packet.cutAll (refusedExchange.flatMap SentPacket.encode) =
        ([⟨false, 7, [0, 0, 0, 13, 0, 0, 0, 7, 0, 1, 9, 1, 2]⟩,
          ⟨true, 7, [0, 0, 0, 11, 0, 0, 0, 7, 0x80, 0, 112]⟩], []) ∧
      Reply.decode [0, 0, 0, 11, 0, 0, 0, 7, 0x80, 0, 112] = .ok ⟨7, ErrorCode.targetDead, []⟩ := by
  obtain ⟨cut, decoded⟩ := packets_are_framed.1 refusedExchange (by decide)
  exact ⟨cut, decoded ⟨7, ErrorCode.targetDead, []⟩ (by decide)⟩

end FrameEval.Wire
