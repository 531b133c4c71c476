import FrameEval.Proofs.Link.Numbering

/-!
# Where a command is

A caller draws an id for its command and submits the command under it; it waits from then on,
until it is told a result.  Meanwhile the link writes the command and keeps its id until a reply
arrives.  `Custody` says how the state of a link follows from its history: the drafted ids are
those drawn and not submitted, the waiting ones those submitted and not told, and among these
the pending ones are those written and not replied to.
-/

namespace FrameEval.Link

open Wire

/-! ## What a history says about a command -/

/-- The ids of the commands whose callers are told a result by effects. -/
def toldBy : List Effect → List PacketId
  | [] => []
  | .conclude id _ :: rest => id :: toldBy rest
  | _ :: rest => toldBy rest

section ToldBy

variable (rest : List Effect)

@[simp]
theorem toldBy_nil : toldBy [] = [] := rfl

@[simp]
theorem toldBy_conclude (id : PacketId) (result : Except ClientError Reply) :
    toldBy (.conclude id result :: rest) = id :: toldBy rest := rfl

@[simp]
theorem toldBy_write (command : Command) : toldBy (.write command :: rest) = toldBy rest := rfl

@[simp]
theorem toldBy_offer (set : EventSet) : toldBy (.offer set :: rest) = toldBy rest := rfl

@[simp]
theorem toldBy_swallow (set : EventSet) : toldBy (.swallow set :: rest) = toldBy rest := rfl

@[simp]
theorem toldBy_receive (set : EventSet) : toldBy (.receive set :: rest) = toldBy rest := rfl

theorem mem_toldBy {effects : List Effect} {id : PacketId} :
    id ∈ toldBy effects ↔ ∃ result, .conclude id result ∈ effects := by
  induction effects with
  | nil => simp
  | cons effect rest ih => cases effect <;> simp [ih, exists_or]

end ToldBy

namespace Entry

/-- The ids of the commands whose callers are told a result. -/
def told (entry : Entry) : List PacketId :=
  toldBy entry.effects

/-- The command of an id is taken from the queue and written. -/
def Writes (entry : Entry) (id : PacketId) : Prop :=
  ∃ command, entry.happening = .take none ∧ entry.effects = [.write command] ∧ command.id = id

/-- A reply of an id arrives. -/
def Answers (entry : Entry) (id : PacketId) : Prop :=
  ∃ packet writable, entry.happening = .arrive packet writable ∧ packet.isReply = true ∧
    packet.id = id

end Entry

/-- The ids of the commands whose callers a history tells a result. -/
def told (history : History) : List PacketId :=
  history.flatMap Entry.told

/-- A caller submitted the command for which it had drawn an id. -/
def Submitted (history : History) (id : PacketId) : Prop :=
  ∃ earlier entry later, history = earlier ++ entry :: later ∧
    entry.happening = .submit id ∧ id ∈ drafted earlier

/-- A submitted command was written, and since then no reply of its id has arrived. -/
def Registered (history : History) (id : PacketId) : Prop :=
  ∃ earlier entry later, history = earlier ++ entry :: later ∧ entry.Writes id ∧
    ∀ other ∈ later, ¬ other.Answers id

variable {history : History} {entry : Entry} {id : PacketId}

theorem drafted_concat : drafted (history ++ [entry]) = drafted history ++ entry.drafted := by
  simp [drafted]

theorem told_append (history more : History) :
    told (history ++ more) = told history ++ told more :=
  List.flatMap_append

theorem told_concat : told (history ++ [entry]) = told history ++ entry.told := by
  rw [told_append]
  simp [told]

theorem submitted_concat :
    Submitted (history ++ [entry]) id ↔
      Submitted history id ∨ entry.happening = .submit id ∧ id ∈ drafted history := by
  constructor
  · rintro ⟨earlier, other, later, whole, happened, drawn⟩
    rcases split_concat whole.symm with ⟨rfl, rfl, -⟩ | ⟨between, -, rfl⟩
    · exact .inr ⟨happened, drawn⟩
    · exact .inl ⟨earlier, other, between, rfl, happened, drawn⟩
  · rintro (⟨earlier, other, later, rfl, happened, drawn⟩ | ⟨happened, drawn⟩)
    · exact ⟨earlier, other, later ++ [entry], by simp, happened, drawn⟩
    · exact ⟨history, entry, [], rfl, happened, drawn⟩

theorem registered_concat :
    Registered (history ++ [entry]) id ↔
      Registered history id ∧ ¬ entry.Answers id ∨ entry.Writes id := by
  constructor
  · rintro ⟨earlier, other, later, whole, writes, silent⟩
    rcases split_concat whole.symm with ⟨rfl, rfl, -⟩ | ⟨between, rfl, rfl⟩
    · exact .inr writes
    · refine .inl ⟨⟨earlier, other, between, rfl, writes, ?_⟩, silent entry (by simp)⟩
      exact fun next member => silent next (List.mem_append_left _ member)
  · rintro (⟨⟨earlier, other, later, rfl, writes, silent⟩, still⟩ | writes)
    · refine ⟨earlier, other, later ++ [entry], by simp, writes, fun next member => ?_⟩
      rcases List.mem_append.1 member with before | last
      · exact silent next before
      · rw [List.mem_singleton.1 last]
        exact still
    · exact ⟨history, entry, [], rfl, writes, by simp⟩

/-- Only who drew an id submits a command under it. -/
theorem Submitted.drafted (submitted : Submitted history id) : id ∈ Link.drafted history := by
  obtain ⟨earlier, entry, later, rfl, -, drawn⟩ := submitted
  rw [drafted_append]
  exact List.mem_append_left _ drawn

/-! ## What a happening does to the ids of callers -/

namespace Switchboard

/-- The ids of the drafted commands. -/
def draftIds (board : Switchboard) : List PacketId :=
  board.drafts.map Command.id

/-- The ids of the submitted commands that were not taken. -/
def queueIds (board : Switchboard) : List PacketId :=
  board.queue.map Command.id

/-- A caller submits a command that it drafted. -/
def Accepts (board : Switchboard) (happening : Happening) (id : PacketId) : Prop :=
  happening = .submit id ∧ id ∈ board.draftIds

theorem accepts_submit
    {board : Switchboard} {command : Command} (drafted : command ∈ board.drafts)
    (id : PacketId) : board.Accepts (.submit command.id) id ↔ id = command.id := by
  constructor
  · rintro ⟨same, -⟩
    exact (Happening.submit.inj same).symm
  · rintro rfl
    exact ⟨rfl, List.mem_map_of_mem drafted⟩

theorem not_accepts_of_ignores
    {board : Switchboard} {happening : Happening} (ignores : board.Ignores happening)
    (id : PacketId) : ¬ board.Accepts happening id := by
  rintro ⟨rfl, drafted⟩
  obtain ⟨command, member, same⟩ := List.mem_map.1 drafted
  exact ignores command member same

@[simp]
theorem toldBy_notice
    (board : Switchboard) (id : PacketId) (result : Except ClientError Reply) :
    toldBy (board.notice id result) = if id ∈ board.waiting then [id] else [] := by
  rw [notice]
  split <;> rfl

@[simp]
theorem toldBy_writes (commands : List Command) (count : Nat) :
    toldBy ((commands.map .write).take count) = [] := by
  rw [← List.map_take]
  induction commands.take count with
  | nil => rfl
  | cons command rest ih => exact ih

@[simp]
theorem toldBy_map_conclude (ids : List PacketId) (result : Except ClientError Reply) :
    toldBy (ids.map fun id => .conclude id result) = ids := by
  induction ids with
  | nil => rfl
  | cons id rest ih => exact congrArg _ ih

theorem drafted_of_ignores
    {board : Switchboard} {happening : Happening} (ignores : board.Ignores happening)
    (counter : PacketId) (effects : List Effect) :
    Entry.drafted ⟨happening, counter, effects⟩ = [] := by
  cases happening with
  | draft order => exact ignores.elim
  | _ => rfl

theorem drafts_submit
    {board : Switchboard} {command : Command} (drafted : command ∈ board.drafts)
    (id : PacketId) :
    id ∈ (board.drafts.filter fun draft => draft.id ≠ command.id).map Command.id ↔
      id ∈ board.draftIds ∧ ¬ board.Accepts (.submit command.id) id := by
  rw [accepts_submit drafted]
  simp only [draftIds, List.mem_map, List.mem_filter, decide_eq_true_eq]
  constructor
  · rintro ⟨draft, ⟨member, other⟩, rfl⟩
    exact ⟨⟨draft, member, rfl⟩, other⟩
  · rintro ⟨⟨draft, member, rfl⟩, other⟩
    exact ⟨draft, ⟨member, other⟩, rfl⟩

namespace Change

variable {board after : Switchboard} {happening : Happening} {effects : List Effect}

/-- A drafted command stays drafted until it is submitted. -/
theorem drafts
    (change : Change board happening after effects) (id : PacketId) :
    id ∈ after.draftIds ↔
      id ∈ board.draftIds ∧ ¬ board.Accepts happening id ∨
        id ∈ Entry.drafted ⟨happening, board.nextId, effects⟩ := by
  cases change with
  | draft order =>
      simp [draftIds, Switchboard.draft, Entry.drafted, Accepts, Order.withId]
  | submit drafted isOpen =>
      rw [← drafts_submit drafted]
      simp [draftIds, Entry.drafted]
  | submitLate drafted closed =>
      rw [← drafts_submit drafted]
      simp [draftIds, Entry.drafted]
  | idle ignores =>
      simp [drafted_of_ignores ignores, not_accepts_of_ignores ignores]
  | _ => simp [draftIds, Entry.drafted, Accepts]

/-- Whoever waited or submits a command waits on or is told. -/
theorem waiting_or_told
    (change : Change board happening after effects) (id : PacketId) :
    id ∈ after.waiting ∨ id ∈ toldBy effects ↔
      id ∈ board.waiting ∨ board.Accepts happening id := by
  -- Where a command is concluded its id goes from the waiting ones to the told ones.
  have erased (other : PacketId) :
      id ∈ board.waiting.erase other ∨ id ∈ (if other ∈ board.waiting then [other] else []) ↔
        id ∈ board.waiting := by
    grind
  cases change with
  | submit drafted isOpen =>
      rw [accepts_submit drafted]
      simp [or_comm]
  | submitLate drafted closed =>
      rw [accepts_submit drafted]
      simp
  | fail isOpen queued => rw [toldBy_notice, erased]; simp [Accepts]
  | giveUp id elapsed => rw [toldBy_notice, erased]; simp [Accepts]
  | reply isOpen isReply expected => rw [toldBy_notice, erased]; simp [Accepts]
  | close isOpen => simp [Accepts]
  | idle ignores => simp [not_accepts_of_ignores ignores]
  | _ => simp [Accepts, Switchboard.draft]

/-- Nobody is told two results at once, or waits on after being told one. -/
theorem told_once
    (change : Change board happening after effects) (once : board.waiting.Nodup)
    (apart : ∀ id, board.Accepts happening id → id ∉ board.waiting) :
    (toldBy effects ++ after.waiting).Nodup := by
  have erased (other : PacketId) :
      ((if other ∈ board.waiting then [other] else []) ++ board.waiting.erase other).Nodup := by
    split
    · next member => exact (List.perm_cons_erase member).nodup_iff.1 once
    · next absent => rwa [List.erase_of_not_mem absent]
  cases change with
  | submit drafted isOpen => simpa using once.insert
  | submitLate drafted closed =>
      have new := apart _ ((accepts_submit drafted _).2 rfl)
      simp [new, once]
  | fail isOpen queued => simpa using erased _
  | giveUp id elapsed => simpa using erased _
  | reply isOpen isReply expected => simpa using erased _
  | close isOpen => simpa using once
  | _ => simpa [Switchboard.draft] using once

/-- The command of a waiting caller is pending from when it is written to when a reply of its
id arrives. -/
theorem pending
    (change : Change board happening after effects) (once : board.waiting.Nodup)
    (closed : board.isOpen = false → board.waiting = []) {id : PacketId}
    (waits : id ∈ after.waiting) :
    id ∈ after.pending ↔
      id ∈ board.pending ∧ ¬ Entry.Answers ⟨happening, board.nextId, effects⟩ id ∨
        Entry.Writes ⟨happening, board.nextId, effects⟩ id := by
  cases change with
  | @write command rest isOpen queued =>
      replace waits : id ∈ board.waiting := waits
      simp [Entry.Answers, Entry.Writes, waits, or_comm, @eq_comm _ id]
  | @reply packet writable isOpen isReply expected =>
      have other : packet.id ≠ id := by
        rintro rfl
        exact once.not_mem_erase waits
      simp [Entry.Answers, Entry.Writes, other, other.symm]
  | @acknowledge packet writable isOpen isReply unexpected =>
      have answers : id ∈ board.pending → packet.id ≠ id := by
        rintro pending rfl
        exact unexpected pending
      simpa [Entry.Answers, Entry.Writes] using fun pending _ => answers pending
  | swallow isOpen reports arises =>
      simp [Entry.Answers, Entry.Writes, isReply_of_reported reports]
  | offer isOpen reports arises =>
      simp [Entry.Answers, Entry.Writes, isReply_of_reported reports]
  | close isOpen => cases waits
  | idle ignores =>
      -- An ignored packet is a reply only on a closed link, where nobody waits.
      have isOpen : board.isOpen = true := by
        by_contra shut
        rw [closed (Bool.eq_false_iff.2 shut)] at waits
        cases waits
      have silent : ¬ Entry.Answers ⟨happening, board.nextId, []⟩ id := by
        rintro ⟨packet, writable, rfl, isReply, -⟩
        rcases ignores with shut | ⟨command, -⟩
        · simp [isOpen] at shut
        · simp [isReply] at command
      simp [silent, Entry.Writes]
  | _ => simp [Entry.Answers, Entry.Writes, Switchboard.draft]

/-- Only submitted commands are queued. -/
theorem queue
    (change : Change board happening after effects) {id : PacketId}
    (queued : id ∈ after.queueIds) : id ∈ board.queueIds ∨ board.Accepts happening id := by
  cases change with
  | submit drafted isOpen =>
      rw [accepts_submit drafted]
      simpa [queueIds] using queued
  | @write command rest isOpen whole =>
      left
      rw [queueIds, whole]
      exact List.mem_cons_of_mem _ queued
  | @fail command rest detail isOpen whole =>
      left
      rw [queueIds, whole]
      exact List.mem_cons_of_mem _ queued
  | close isOpen => cases queued
  | _ => exact .inl queued

/-- Only a queued command is written on behalf of a caller. -/
theorem writes
    (change : Change board happening after effects) {id : PacketId}
    (writes : Entry.Writes ⟨happening, board.nextId, effects⟩ id) : id ∈ board.queueIds := by
  obtain ⟨command, rfl, wrote, rfl⟩ := writes
  cases change with
  | write isOpen queued => simp_all [queueIds]
  | idle ignores => cases wrote

/-- Only what is written becomes pending. -/
theorem pending_of
    (change : Change board happening after effects) {id : PacketId}
    (pending : id ∈ after.pending) :
    id ∈ board.pending ∨ Entry.Writes ⟨happening, board.nextId, effects⟩ id := by
  cases change with
  | @write command rest isOpen queued =>
      rcases List.mem_insert_iff.1 pending with rfl | before
      · exact .inr ⟨command, rfl, rfl, rfl⟩
      · exact .inl (List.mem_of_mem_filter before)
  | reply isOpen isReply expected => exact .inl (List.mem_of_mem_erase pending)
  | close isOpen => cases pending
  | _ => exact .inl pending

/-- The link expects replies only to commands of its own. -/
theorem resumes
    (change : Change board happening after effects) {id : PacketId}
    (resumes : id ∈ after.resumes) :
    id ∈ board.resumes ∨
      id ∈ (Entry.ownCommands ⟨happening, board.nextId, effects⟩).map Command.id := by
  cases change with
  | swallow isOpen reports arises =>
      rw [ownCommands_swallow]
      dsimp only at resumes
      split at resumes
      · exact List.mem_append.1 resumes
      · exact .inl resumes
  | acknowledge isOpen isReply unexpected => exact .inl (List.mem_of_mem_erase resumes)
  | _ => exact .inl resumes

/-- On a closed link nobody waits. -/
theorem closed
    (change : Change board happening after effects)
    (closed : board.isOpen = false → board.waiting = []) (shut : after.isOpen = false) :
    after.waiting = [] := by
  cases change with
  | submit drafted isOpen => simp [isOpen] at shut
  | giveUp id elapsed => simp [closed shut]
  | fail isOpen queued => simp [isOpen] at shut
  | reply isOpen isReply expected => simp [isOpen] at shut
  | close isOpen => rfl
  | _ => exact closed shut

end Change

end Switchboard

/-! ## Custody -/

/-- How the state of a link follows from its history. -/
structure Custody (history : History) (board : Switchboard) : Prop where
  drafts : ∀ id, id ∈ board.draftIds ↔ id ∈ drafted history ∧ ¬ Submitted history id
  waiting : ∀ id, id ∈ board.waiting ↔ Submitted history id ∧ id ∉ told history
  /-- Among the commands whose callers wait the written ones without a reply are pending. -/
  pending : ∀ id ∈ board.waiting, id ∈ board.pending ↔ Registered history id
  once : (told history ++ board.waiting).Nodup
  submitted_of_told : ∀ id ∈ told history, Submitted history id
  submitted_of_queued : ∀ id ∈ board.queueIds, Submitted history id
  submitted_of_pending : ∀ id ∈ board.pending, Submitted history id
  submitted_of_registered : ∀ id, Registered history id → Submitted history id
  resumes : ∀ id ∈ board.resumes, id ∈ ownIds history
  closed : board.isOpen = false → board.waiting = []

theorem custody_fresh (capacity : Nat) : Custody [] (.fresh capacity) where
  drafts := by simp [Switchboard.fresh, Switchboard.draftIds, drafted]
  waiting := by simp [Switchboard.fresh, Submitted]
  pending := by simp [Switchboard.fresh]
  once := List.nodup_nil
  submitted_of_told := by simp [told]
  submitted_of_queued := by simp [Switchboard.fresh, Switchboard.queueIds]
  submitted_of_pending := by simp [Switchboard.fresh]
  submitted_of_registered := by simp [Registered]
  resumes := by simp [Switchboard.fresh]
  closed := by simp [Switchboard.fresh]

namespace Custody

variable {board : Switchboard}

theorem submitted_step
    (custody : Custody history board) (happening : Happening) (id : PacketId) :
    Submitted (history ++ [board.entry happening]) id ↔
      Submitted history id ∨ board.Accepts happening id := by
  rw [submitted_concat, Switchboard.Accepts, custody.drafts, Switchboard.happening_entry]
  tauto

/-- Nobody waits for a command that is still to be submitted. -/
theorem not_submitted_of_accepts
    (custody : Custody history board) {happening : Happening} {id : PacketId}
    (accepts : board.Accepts happening id) : ¬ Submitted history id :=
  ((custody.drafts id).1 accepts.2).2

theorem drafts_step
    (custody : Custody history board) (happening : Happening)
    (new : ∀ id ∈ (board.entry happening).drafted, id ∉ drafted history) (id : PacketId) :
    id ∈ (board.step happening).1.draftIds ↔
      id ∈ drafted (history ++ [board.entry happening]) ∧
        ¬ Submitted (history ++ [board.entry happening]) id := by
  have unsubmitted (now : id ∈ (board.entry happening).drafted) :
      ¬ Submitted history id ∧ ¬ board.Accepts happening id :=
    ⟨fun submitted => new id now submitted.drafted,
      fun accepts => new id now ((custody.drafts id).1 accepts.2).1⟩
  rw [(board.step_change happening).drafts, drafted_concat, List.mem_append,
    custody.submitted_step, custody.drafts]
  change _ ∨ id ∈ (board.entry happening).drafted ↔ _
  tauto

theorem once_step
    (custody : Custody history board) (happening : Happening) :
    (told (history ++ [board.entry happening]) ++
      (board.step happening).1.waiting).Nodup := by
  have change := board.step_change happening
  have apart : ∀ id, board.Accepts happening id → id ∉ board.waiting :=
    fun id accepts waits =>
      custody.not_submitted_of_accepts accepts ((custody.waiting id).1 waits).1
  rw [told_concat, List.append_assoc]
  refine List.nodup_append'.2 ⟨(List.nodup_append'.1 custody.once).1,
    change.told_once (List.nodup_append'.1 custody.once).2.1 apart, ?_⟩
  intro id earlier now
  have submitted := custody.submitted_of_told id earlier
  rcases (change.waiting_or_told id).1 (List.mem_append.1 now).symm with waits | accepts
  · exact ((custody.waiting id).1 waits).2 earlier
  · exact custody.not_submitted_of_accepts accepts submitted

theorem waiting_step
    (custody : Custody history board) (happening : Happening) (id : PacketId) :
    id ∈ (board.step happening).1.waiting ↔
      Submitted (history ++ [board.entry happening]) id ∧
        id ∉ told (history ++ [board.entry happening]) := by
  have all := (board.step_change happening).waiting_or_told id
  have apart := (List.nodup_append'.1 (custody.once_step happening)).2.2
  rw [custody.submitted_step]
  constructor
  · intro waits
    refine ⟨?_, fun told => apart told waits⟩
    exact (all.1 (.inl waits)).imp_left fun before => ((custody.waiting id).1 before).1
  · rintro ⟨known, untold⟩
    rw [told_concat, List.mem_append, not_or] at untold
    have before : id ∈ board.waiting ∨ board.Accepts happening id :=
      known.imp_left fun submitted => (custody.waiting id).2 ⟨submitted, untold.1⟩
    exact (all.2 before).resolve_right untold.2

theorem pending_step
    (custody : Custody history board) (happening : Happening) {id : PacketId}
    (waits : id ∈ (board.step happening).1.waiting) :
    id ∈ (board.step happening).1.pending ↔
      Registered (history ++ [board.entry happening]) id := by
  have change := board.step_change happening
  have once := (List.nodup_append'.1 custody.once).2.1
  have registered : id ∈ board.pending ↔ Registered history id := by
    rcases (change.waiting_or_told id).1 (.inl waits) with before | accepts
    · exact custody.pending id before
    · -- A command that is only now submitted was neither written nor replied to.
      have unknown := custody.not_submitted_of_accepts accepts
      exact iff_of_false (unknown ∘ custody.submitted_of_pending id)
        (unknown ∘ custody.submitted_of_registered id)
  rw [change.pending once custody.closed waits, registered_concat, registered]
  rfl

/-- Whatever happens keeps custody, if a drawn id was not drawn before. -/
theorem step
    (custody : Custody history board) (happening : Happening)
    (new : ∀ id ∈ (board.entry happening).drafted, id ∉ drafted history) :
    Custody (history ++ [board.entry happening]) (board.step happening).1 := by
  have change := board.step_change happening
  have still {id : PacketId} (submitted : Submitted history id) :
      Submitted (history ++ [board.entry happening]) id :=
    (custody.submitted_step happening id).2 (.inl submitted)
  have written {id : PacketId} (writes : (board.entry happening).Writes id) :
      Submitted (history ++ [board.entry happening]) id :=
    still (custody.submitted_of_queued id (change.writes writes))
  refine
    { drafts := custody.drafts_step happening new
      waiting := custody.waiting_step happening
      pending := fun id waits => custody.pending_step happening waits
      once := custody.once_step happening
      submitted_of_told := ?told
      submitted_of_queued := ?queued
      submitted_of_pending := ?pending
      submitted_of_registered := ?registered
      resumes := ?resumes
      closed := change.closed custody.closed }
  case told =>
    intro id member
    rw [told_concat, List.mem_append] at member
    rcases member with earlier | now
    · exact still (custody.submitted_of_told id earlier)
    · rw [custody.submitted_step]
      exact ((change.waiting_or_told id).1 (.inr now)).imp_left fun before =>
        ((custody.waiting id).1 before).1
  case queued =>
    intro id queued
    rw [custody.submitted_step]
    exact (change.queue queued).imp_left (custody.submitted_of_queued id)
  case pending =>
    intro id pending
    rcases change.pending_of pending with before | writes
    · exact still (custody.submitted_of_pending id before)
    · exact written writes
  case registered =>
    intro id registered
    rcases registered_concat.1 registered with ⟨before, -⟩ | writes
    · exact still (custody.submitted_of_registered id before)
    · exact written writes
  case resumes =>
    intro id resumes
    rw [ownIds_append, ownIds_singleton, List.mem_append]
    exact (change.resumes resumes).imp_left (custody.resumes id)

end Custody

/-- While the drawn ids are fewer than there are, a link keeps custody of the commands. -/
theorem Reached.custody
    {capacity : Nat} {board : Switchboard} (reached : Reached capacity history board)
    (few : (drawn history).length < UInt32.size) : Custody history board := by
  induction reached with
  | fresh => exact custody_fresh capacity
  | @step history board reached happening ih =>
      -- The id of a draft is new because the longer history draws no id twice either.
      have fresh := (reached.step happening).drawn_nodup few
      refine (ih (few_of_append few)).step happening fun id now earlier => ?_
      rw [drawn_append, drawn_singleton] at fresh
      refine (List.nodup_append'.1 fresh).2.2 ?_ (List.mem_append_left _ now)
      exact (drawn_perm history).mem_iff.2 (List.mem_append_left _ earlier)

/-- No caller draws an id that the link draws. -/
theorem Reached.drafted_disjoint_ownIds
    {capacity : Nat} {board : Switchboard} (reached : Reached capacity history board)
    (few : (drawn history).length < UInt32.size) :
    (drafted history).Disjoint (ownIds history) :=
  (List.nodup_append'.1 ((drawn_perm history).nodup_iff.1 (reached.drawn_nodup few))).2.2

/-- The link never expects replies to a caller's command and to one of its own under one id. -/
theorem Reached.pending_disjoint_resumes
    {capacity : Nat} {board : Switchboard} (reached : Reached capacity history board)
    (few : (drawn history).length < UInt32.size) : board.pending.Disjoint board.resumes := by
  have custody := reached.custody few
  intro id pending resumes
  exact reached.drafted_disjoint_ownIds few
    (custody.submitted_of_pending id pending).drafted (custody.resumes id resumes)

end FrameEval.Link
