import FrameEval.Proofs.Link.Custody

/-!
# The routing of replies

Replies may come late, twice, out of order or never, and a caller that gave up is forgotten
only on a later occasion.  Still every command completes at most once, and it completes with a
reply only if this is the first one of its id since the command was written.  When a link ends
nobody is left waiting.
-/

namespace FrameEval.Link

open Wire

/-! ## Which happenings tell a caller what -/

namespace Switchboard

variable {board after : Switchboard} {happening : Happening} {effects : List Effect}
  {id : PacketId} {result : Except ClientError Reply}

/-- An arriving packet concludes the command of its id if it is a reply that is expected. -/
theorem Change.conclude_of_arrive
    {packet : Packet} {writable : Nat}
    (change : Change board (.arrive packet writable) after effects)
    (closed : board.isOpen = false → board.waiting = []) :
    .conclude id result ∈ effects ↔
      packet.isReply = true ∧ packet.id = id ∧ result = Reply.decode packet.bytes ∧
        id ∈ board.waiting ∧ id ∈ board.pending := by
  cases change with
  | reply isOpen isReply expected =>
      simp only [mem_notice, Effect.conclude.injEq]
      grind
  | acknowledge isOpen isReply unexpected => grind
  | swallow isOpen reports arises => simp [isReply_of_reported reports]
  | offer isOpen reports arises => simp [isReply_of_reported reports]
  | idle ignores =>
      rcases ignores with shut | ⟨command, -⟩
      · simp [closed shut]
      · simp [command]

/-- A caller gets a reply only if a packet arrives. -/
theorem Change.arrive_of_reply
    {reply : Reply} (change : Change board happening after effects)
    (replied : .conclude id (.ok reply) ∈ effects) :
    ∃ packet writable, happening = .arrive packet writable := by
  cases change with
  | reply isOpen isReply expected => exact ⟨_, _, rfl⟩
  | swallow isOpen reports arises => exact ⟨_, _, rfl⟩
  | _ => simp at replied

/-- When a link ends, and afterwards, callers are told nothing else. -/
theorem Change.result_of_closed
    (change : Change board happening after effects)
    (closed : board.isOpen = false → board.waiting = [])
    (ending : happening = .close ∨ board.isOpen = false)
    (concludes : .conclude id result ∈ effects) : result = .error .connectionClosed := by
  rcases ending with rfl | shut
  · cases change with
    | close isOpen =>
        obtain ⟨other, -, same⟩ := List.mem_map.1 concludes
        exact (Effect.conclude.inj same).2.symm
    | idle ignores => cases concludes
  · cases change with
    | submitLate drafted shut =>
        exact (Effect.conclude.inj (List.mem_singleton.1 concludes)).2
    | giveUp id elapsed => simp [closed shut] at concludes
    | _ => simp_all

end Switchboard

/-! ## Routing -/

/-- What callers can rely on. -/
structure Routing (history : History) (board : Switchboard) : Prop where
  /-- A command completes at most once. -/
  once : (told history).Nodup
  /-- Only a submitted command completes. -/
  submitted : ∀ id ∈ told history, Submitted history id
  /-- It completes with a reply only when a packet arrives. -/
  replied : ∀ entry ∈ history, ∀ id reply, .conclude id (.ok reply) ∈ entry.effects →
    ∃ packet writable, entry.happening = .arrive packet writable
  /-- A packet that arrives reaches a caller just if it is the first reply with the id of the
  caller's command since this was written, and the caller was told nothing before. -/
  first : ∀ before entry after, history = before ++ entry :: after →
    ∀ packet writable, entry.happening = .arrive packet writable →
      ∀ id result, .conclude id result ∈ entry.effects ↔
        packet.isReply = true ∧ packet.id = id ∧ result = Reply.decode packet.bytes ∧
          Registered before id ∧ id ∉ told before
  /-- No caller is told about a command of the link itself. -/
  own : (ownIds history).Disjoint (told history)
  /-- No id is that of a caller's pending command and of an unanswered command of the link. -/
  apart : board.pending.Disjoint board.resumes
  /-- When the link ends whoever waits is told so, and so is whoever comes later. -/
  ended : ∀ before entry after, history = before ++ entry :: after →
    entry.happening = .close → ∀ id, Submitted history id → id ∉ told before →
      .conclude id (.error .connectionClosed) ∈ (entry :: after).flatMap Entry.effects

/-- Who waits for a pending command is who was promised the next reply. -/
theorem Custody.expected_iff
    {history : History} {board : Switchboard} (custody : Custody history board)
    (id : PacketId) :
    id ∈ board.waiting ∧ id ∈ board.pending ↔ Registered history id ∧ id ∉ told history := by
  constructor
  · rintro ⟨waits, pending⟩
    exact ⟨(custody.pending id waits).1 pending, ((custody.waiting id).1 waits).2⟩
  · rintro ⟨registered, untold⟩
    have waits := (custody.waiting id).2
      ⟨custody.submitted_of_registered id registered, untold⟩
    exact ⟨waits, (custody.pending id waits).2 registered⟩

section Few

variable {capacity : Nat} {history before after : History} {entry : Entry}
  {board : Switchboard}

/-- Each entry was made by a link that had custody of the commands. -/
theorem Reached.custody_split
    (reached : Reached capacity (before ++ entry :: after) board)
    (few : (drawn (before ++ entry :: after)).length < UInt32.size) :
    ∃ middle, Reached capacity before middle ∧ Custody before middle ∧
      entry = middle.entry entry.happening := by
  obtain ⟨middle, earlier, made⟩ := reached.split
  exact ⟨middle, earlier, earlier.custody (few_of_append few), made⟩

theorem Reached.first
    (reached : Reached capacity (before ++ entry :: after) board)
    (few : (drawn (before ++ entry :: after)).length < UInt32.size)
    {packet : Packet} {writable : Nat} (arrives : entry.happening = .arrive packet writable)
    (id : PacketId) (result : Except ClientError Reply) :
    .conclude id result ∈ entry.effects ↔
      packet.isReply = true ∧ packet.id = id ∧ result = Reply.decode packet.bytes ∧
        Registered before id ∧ id ∉ told before := by
  obtain ⟨middle, -, custody, made⟩ := reached.custody_split few
  rw [arrives] at made
  rw [← custody.expected_iff, made]
  exact (middle.step_change _).conclude_of_arrive custody.closed

/-- Whoever completes when the link ends, or afterwards, is told that it ended. -/
theorem Reached.result_of_ended
    (reached : Reached capacity (before ++ entry :: after) board)
    (few : (drawn (before ++ entry :: after)).length < UInt32.size)
    (ends : entry.happening = .close) {late : Entry} (member : late ∈ entry :: after)
    {id : PacketId} {result : Except ClientError Reply}
    (concludes : .conclude id result ∈ late.effects) :
    result = .error .connectionClosed := by
  obtain ⟨between, rest, whole⟩ := List.append_of_mem member
  rw [whole, ← List.append_assoc] at reached few
  obtain ⟨middle, earlier, custody, made⟩ := reached.custody_split few
  have ending : late.happening = .close ∨ middle.isOpen = false := by
    cases between with
    | nil =>
        obtain ⟨rfl, -⟩ := List.cons.inj whole
        exact .inl ends
    | cons head tail =>
        obtain ⟨rfl, -⟩ := List.cons.inj whole
        exact .inr (earlier.isOpen_eq_false (by simp) ends)
  rw [made] at concludes
  exact (middle.step_change _).result_of_closed custody.closed ending concludes

theorem Reached.ended
    (reached : Reached capacity (before ++ entry :: after) board)
    (few : (drawn (before ++ entry :: after)).length < UInt32.size)
    (ends : entry.happening = .close) {id : PacketId}
    (submitted : Submitted (before ++ entry :: after) id) (untold : id ∉ told before) :
    .conclude id (.error .connectionClosed) ∈ (entry :: after).flatMap Entry.effects := by
  have custody := reached.custody few
  have idle : id ∉ board.waiting := by
    rw [custody.closed (reached.isOpen_eq_false (by simp) ends)]
    exact List.not_mem_nil
  -- Nobody waits in the end, so everybody who submitted a command was told something.
  have told : id ∈ told before ∨ id ∈ told (entry :: after) := by
    rw [← List.mem_append, ← told_append]
    by_contra never
    exact idle ((custody.waiting id).2 ⟨submitted, never⟩)
  obtain ⟨late, member, tells⟩ := List.mem_flatMap.1 (told.resolve_left untold)
  obtain ⟨result, concludes⟩ := mem_toldBy.1 tells
  obtain rfl := reached.result_of_ended few ends member concludes
  exact List.mem_flatMap_of_mem member concludes

end Few

/-- Every history of a link in which fewer ids are drawn than there are routes replies as its
callers rely on, whatever the interleaving. -/
theorem replies_reach_their_callers
    (capacity : Nat) (happenings : List Happening)
    (few : (drawn ((Switchboard.fresh capacity).history happenings)).length < UInt32.size) :
    Routing ((Switchboard.fresh capacity).history happenings)
      ((Switchboard.fresh capacity).run happenings).1 := by
  have reached := reached_run capacity happenings
  generalize (Switchboard.fresh capacity).history happenings = history at few reached ⊢
  generalize ((Switchboard.fresh capacity).run happenings).1 = board at reached ⊢
  have custody := reached.custody few
  have foreign := reached.drafted_disjoint_ownIds few
  refine
    { once := (List.nodup_append'.1 custody.once).1
      submitted := custody.submitted_of_told
      replied := ?replied
      first := ?first
      own := fun id own told => foreign (custody.submitted_of_told id told).drafted own
      apart := reached.pending_disjoint_resumes few
      ended := ?ended }
  case replied =>
    intro entry member id reply replied
    obtain ⟨middle, made⟩ := reached.made member
    rw [made] at replied
    exact (middle.step_change _).arrive_of_reply replied
  case first =>
    rintro before entry after rfl packet writable arrives id result
    exact reached.first few arrives id result
  case ended =>
    rintro before entry after rfl ends id submitted untold
    exact reached.ended few ends submitted untold

/-- An empty reply. -/
def emptyReply (id : PacketId) : Packet where
  isReply := true
  id := id
  bytes := Reply.encode ⟨id, 0, []⟩

/-- Two callers send commands and the first one gives up; then both replies arrive. -/
def lateReply : List Happening :=
  [.draft Call.suspendAll.order, .draft Call.resumeAll.order, .submit 1, .submit 2,
    .take none, .take none, .giveUp 1 (.ofSeconds 10),
    .arrive (emptyReply 1) 0, .arrive (emptyReply 2) 0, .close]

theorem late_reply_is_routed :
    (drawn ((Switchboard.fresh 1).history lateReply)).length < UInt32.size ∧
      Routing ((Switchboard.fresh 1).history lateReply)
        ((Switchboard.fresh 1).run lateReply).1 ∧
      ((Switchboard.fresh 1).run lateReply).2 =
        [.write (Call.suspendAll.order.withId 1), .write (Call.resumeAll.order.withId 2),
          .conclude 1 (.error (.timeout (.ofSeconds 10))), .conclude 2 (.ok ⟨2, 0, []⟩)] :=
  ⟨by decide, replies_reach_their_callers 1 lateReply (by decide), rfl⟩

end FrameEval.Link
