import FrameEval.Link.Switchboard

/-!
# Histories of a link

The happenings at a link, each with what the link did, make up its history.  Callers, transport
and target choose the happenings freely, so a property of all histories is one of all
interleavings.

`Change` says once what a single happening can do to a link, and under which condition; the
invariants of a link are then proved by cases on it and never look at `step` again.
-/

namespace FrameEval.Link

open Wire

/-- The event set that a packet reports, if it does. -/
def reported? (packet : Packet) : Option EventSet :=
  if packet.isReply then none
  else if (packet.bytes.drop 9).take 2 = [CommandSet.event, Switchboard.eventCommand] then
    (EventSet.ofBytes (packet.bytes.drop headerSize)).toOption
  else none

theorem isReply_of_reported
    {packet : Packet} {set : EventSet} (reports : reported? packet = some set) :
    packet.isReply = false := by
  rw [reported?] at reports
  split at reports
  · cases reports
  · next command => exact Bool.eq_false_iff.2 command

/-- A happening at a link and what the link did. -/
structure Entry where
  happening : Happening
  /-- The id that was next to be drawn when it happened. -/
  counter : PacketId
  effects : List Effect

/-- What happened to a link, the first happening first. -/
abbrev History := List Entry

namespace Switchboard

/-- The entry of a happening at a link. -/
def entry (board : Switchboard) (happening : Happening) : Entry where
  happening := happening
  counter := board.nextId
  effects := (board.step happening).2

@[simp]
theorem happening_entry (board : Switchboard) (happening : Happening) :
    (board.entry happening).happening = happening := rfl

@[simp]
theorem effects_entry (board : Switchboard) (happening : Happening) :
    (board.entry happening).effects = (board.step happening).2 := rfl

/-- The history that happenings make. -/
def history (board : Switchboard) : List Happening → History
  | [] => []
  | happening :: rest => board.entry happening :: (board.step happening).1.history rest

/-- A history tells all effects of a run. -/
theorem effects_history
    (board : Switchboard) (happenings : List Happening) :
    (board.history happenings).flatMap Entry.effects = (board.run happenings).2 := by
  induction happenings generalizing board with
  | nil => rfl
  | cons happening rest ih =>
      rw [history, List.flatMap_cons, ih]
      rfl

end Switchboard

/-! ## Reached states -/

/-- After a history a fresh link is in a state. -/
inductive Reached (capacity : Nat) : History → Switchboard → Prop where
  | fresh : Reached capacity [] (.fresh capacity)
  | step
      {history : History} {board : Switchboard} (reached : Reached capacity history board)
      (happening : Happening) :
      Reached capacity (history ++ [board.entry happening]) (board.step happening).1

theorem Reached.run
    {capacity : Nat} {history : History} {board : Switchboard}
    (reached : Reached capacity history board) (happenings : List Happening) :
    Reached capacity (history ++ board.history happenings) (board.run happenings).1 := by
  induction happenings generalizing history board with
  | nil => simpa [Switchboard.history, Switchboard.run] using reached
  | cons happening rest ih =>
      have later := ih (reached.step happening)
      rw [List.append_assoc] at later
      exact later

/-- Every run of a fresh link reaches its last state. -/
theorem reached_run
    (capacity : Nat) (happenings : List Happening) :
    Reached capacity ((Switchboard.fresh capacity).history happenings)
      ((Switchboard.fresh capacity).run happenings).1 :=
  Reached.fresh.run happenings

/-- An entry of a longer history is its last one or is in the history before. -/
theorem split_concat
    {before after history : History} {entry last : Entry}
    (whole : before ++ entry :: after = history ++ [last]) :
    (before = history ∧ entry = last ∧ after = []) ∨
      ∃ rest, after = rest ++ [last] ∧ before ++ entry :: rest = history := by
  rcases List.eq_nil_or_concat after with rfl | ⟨rest, other, rfl⟩
  · obtain ⟨same, ends⟩ := List.append_inj' whole rfl
    exact .inl ⟨same, List.singleton_inj.1 ends, rfl⟩
  · rw [List.concat_eq_append, ← List.cons_append, ← List.append_assoc] at whole
    obtain ⟨same, ends⟩ := List.append_inj' whole rfl
    obtain rfl := List.singleton_inj.1 ends
    exact .inr ⟨rest, List.concat_eq_append, same⟩

/-- The last entry of a history was made on the way to the reached state. -/
theorem Reached.last
    {capacity : Nat} {history : History} {entry : Entry} {board : Switchboard}
    (reached : Reached capacity (history ++ [entry]) board) :
    ∃ before, Reached capacity history before ∧ entry = before.entry entry.happening ∧
      board = (before.step entry.happening).1 := by
  generalize whole : history ++ [entry] = longer at reached
  cases reached with
  | fresh => simp at whole
  | step reached happening =>
      obtain ⟨rfl, ends⟩ := List.append_inj' whole rfl
      obtain rfl := List.singleton_inj.1 ends
      exact ⟨_, reached, rfl, rfl⟩

/-- Each entry was made in a state that the earlier ones had reached. -/
theorem Reached.split
    {capacity : Nat} {before after : History} {entry : Entry} {board : Switchboard}
    (reached : Reached capacity (before ++ entry :: after) board) :
    ∃ middle, Reached capacity before middle ∧ entry = middle.entry entry.happening := by
  generalize whole : before ++ entry :: after = history at reached
  induction reached generalizing after with
  | fresh => simp at whole
  | step reached happening ih =>
      rcases split_concat whole with ⟨rfl, rfl, -⟩ | ⟨rest, -, earlier⟩
      · exact ⟨_, reached, rfl⟩
      · exact ih earlier

theorem Reached.made
    {capacity : Nat} {history : History} {board : Switchboard}
    (reached : Reached capacity history board) {entry : Entry} (member : entry ∈ history) :
    ∃ middle, entry = Switchboard.entry middle entry.happening := by
  obtain ⟨before, after, rfl⟩ := List.append_of_mem member
  obtain ⟨middle, -, made⟩ := reached.split
  exact ⟨middle, made⟩

/-! ## What a happening does -/

namespace Switchboard

/-- The caller of a command is told a result, if it still waits. -/
def notice (board : Switchboard) (id : PacketId) (result : Except ClientError Reply) :
    List Effect :=
  if id ∈ board.waiting then [.conclude id result] else []

@[simp]
theorem mem_notice
    {board : Switchboard} {id : PacketId} {result : Except ClientError Reply}
    {effect : Effect} :
    effect ∈ board.notice id result ↔ effect = .conclude id result ∧ id ∈ board.waiting := by
  rw [notice]
  split <;> simp_all

@[simp]
theorem mem_writes {commands : List Command} {count : Nat} {effect : Effect} :
    effect ∈ (commands.map Effect.write).take count ↔
      ∃ command ∈ commands.take count, .write command = effect := by
  rw [← List.map_take, List.mem_map]

theorem conclude_eq
    (board : Switchboard) (id : PacketId) (result : Except ClientError Reply) :
    board.conclude id result =
      ({ board with waiting := board.waiting.erase id }, board.notice id result) := by
  rw [conclude, notice]
  split
  · rfl
  · next absent => rw [List.erase_of_not_mem absent]

/-- The commands that undo the suspension of an event set. -/
def undoing (board : Switchboard) (set : EventSet) : List Command :=
  number board.nextId (resumption set)

@[simp]
theorem length_number (first : PacketId) (orders : List Order) :
    (number first orders).length = orders.length := by
  induction orders generalizing first with
  | nil => rfl
  | cons order rest ih => rw [number, List.length_cons, List.length_cons, ih]

theorem resume_eq
    (board : Switchboard) (set : EventSet) (writable : Nat) :
    board.resume set writable =
      ({ board with
          nextId := board.nextId + UInt32.ofNat (resumption set).length
          resumes :=
            if (resumption set).length ≤ writable then
              board.resumes ++ (board.undoing set).map Command.id
            else board.resumes },
        .swallow set :: ((board.undoing set).take writable).map .write) := by
  simp only [resume, undoing, length_number, List.map_take]
  split <;> rfl

/-- Nothing comes of a happening. -/
def Ignores (board : Switchboard) : Happening → Prop
  | .submit id => ∀ command ∈ board.drafts, command.id ≠ id
  | .take _ => board.isOpen = false ∨ board.queue = []
  | .arrive packet _ =>
      board.isOpen = false ∨ packet.isReply = false ∧ reported? packet = none
  | .receive => board.events.sets = []
  | .close => board.isOpen = false
  | _ => False

/-- What a happening can do to a link. -/
inductive Change (board : Switchboard) : Happening → Switchboard → List Effect → Prop where
  | draft (order : Order) : Change board (.draft order) (board.draft order) []
  | submit
      {command : Command} (drafted : command ∈ board.drafts) (isOpen : board.isOpen = true) :
      Change board (.submit command.id)
        { board with
          drafts := board.drafts.filter fun draft => draft.id ≠ command.id
          queue := board.queue ++ [command]
          waiting := board.waiting.insert command.id } []
  | submitLate
      {command : Command} (drafted : command ∈ board.drafts) (closed : board.isOpen = false) :
      Change board (.submit command.id)
        { board with drafts := board.drafts.filter fun draft => draft.id ≠ command.id }
        [.conclude command.id (.error .connectionClosed)]
  | write
      {command : Command} {rest : List Command} (isOpen : board.isOpen = true)
      (queued : board.queue = command :: rest) :
      Change board (.take none)
        { board with
          queue := rest
          pending := (board.pending.filter fun id => id ∈ board.waiting).insert command.id }
        [.write command]
  | fail
      {command : Command} {rest : List Command} {detail : String}
      (isOpen : board.isOpen = true) (queued : board.queue = command :: rest) :
      Change board (.take (some detail))
        { board with queue := rest, waiting := board.waiting.erase command.id }
        (board.notice command.id (.error (.io detail)))
  | giveUp (id : PacketId) (elapsed : Elapsed) :
      Change board (.giveUp id elapsed)
        { board with waiting := board.waiting.erase id }
        (board.notice id (.error (.timeout elapsed)))
  | reply
      {packet : Packet} {writable : Nat} (isOpen : board.isOpen = true)
      (isReply : packet.isReply = true) (expected : packet.id ∈ board.pending) :
      Change board (.arrive packet writable)
        { board with
          pending := board.pending.erase packet.id
          waiting := board.waiting.erase packet.id }
        (board.notice packet.id (Reply.decode packet.bytes))
  | acknowledge
      {packet : Packet} {writable : Nat} (isOpen : board.isOpen = true)
      (isReply : packet.isReply = true) (unexpected : packet.id ∉ board.pending) :
      Change board (.arrive packet writable)
        { board with resumes := board.resumes.erase packet.id } []
  | swallow
      {packet : Packet} {writable : Nat} {set : EventSet} (isOpen : board.isOpen = true)
      (reports : reported? packet = some set)
      (arises : arisesFromInvocation board.invoking set = true) :
      Change board (.arrive packet writable)
        { board with
          nextId := board.nextId + UInt32.ofNat (resumption set).length
          resumes :=
            if (resumption set).length ≤ writable then
              board.resumes ++ (board.undoing set).map Command.id
            else board.resumes }
        (.swallow set :: ((board.undoing set).take writable).map .write)
  | offer
      {packet : Packet} {writable : Nat} {set : EventSet} (isOpen : board.isOpen = true)
      (reports : reported? packet = some set)
      (arises : arisesFromInvocation board.invoking set = false) :
      Change board (.arrive packet writable)
        { board with events := board.events.offer set } [.offer set]
  | enter (thread : ThreadId) :
      Change board (.enter thread)
        { board with invoking := board.invoking.enter thread } []
  | leave (thread : ThreadId) :
      Change board (.leave thread)
        { board with invoking := board.invoking.leave thread } []
  | receive
      {set : EventSet} {rest : List EventSet} (waits : board.events.sets = set :: rest) :
      Change board .receive
        { board with events := { board.events with sets := rest } } [.receive set]
  | close (isOpen : board.isOpen = true) :
      Change board .close
        { board with queue := [], waiting := [], pending := [], isOpen := false }
        (board.waiting.map fun id => .conclude id (.error .connectionClosed))
  | idle
      {happening : Happening} (ignores : board.Ignores happening) :
      Change board happening board []

theorem change_submit
    (board : Switchboard) (id : PacketId) :
    Change board (.submit id) (board.submit id).1 (board.submit id).2 := by
  rw [submit]
  split
  · next absent =>
      refine .idle fun command member same => ?_
      simpa [same] using List.find?_eq_none.1 absent command member
  · next command found =>
      obtain rfl : command.id = id := by simpa using List.find?_some found
      have drafted := List.mem_of_find?_eq_some found
      cases isOpen : board.isOpen with
      | true => simpa [isOpen] using Change.submit drafted isOpen
      | false => simpa [isOpen] using Change.submitLate drafted isOpen

theorem change_take
    (board : Switchboard) (failure : Option String) (isOpen : board.isOpen = true) :
    Change board (.take failure) (board.take failure).1 (board.take failure).2 := by
  rw [take]
  split
  · next empty => exact .idle (.inr empty)
  · next command rest queued =>
      cases failure with
      | some detail =>
          simp only [conclude_eq]
          exact .fail isOpen queued
      | none => exact .write isOpen queued

theorem change_report
    (board : Switchboard) {packet : Packet} (writable : Nat) (isOpen : board.isOpen = true)
    (command : packet.isReply = false) :
    Change board (.arrive packet writable) (board.report packet writable).1
      (board.report packet writable).2 := by
  rw [report]
  split
  · next other =>
      refine .idle (.inr ⟨command, ?_⟩)
      simp only [reported?, command, if_neg other]
      rfl
  · next event =>
      rw [Decidable.not_not] at event
      split
      · next error malformed =>
          refine .idle (.inr ⟨command, ?_⟩)
          simp only [reported?, command, event, malformed]
          rfl
      · next set parsed =>
          have reports : reported? packet = some set := by
            simp only [reported?, command, event, parsed]
            rfl
          split
          · next arises =>
              rw [resume_eq]
              exact .swallow isOpen reports arises
          · next other => exact .offer isOpen reports (Bool.eq_false_iff.2 other)

/-- Every step of a link is one of the described changes. -/
theorem step_change
    (board : Switchboard) (happening : Happening) :
    Change board happening (board.step happening).1 (board.step happening).2 := by
  cases happening with
  | draft order => exact .draft order
  | submit id => exact change_submit board id
  | take failure =>
      rw [step]
      split
      · next isOpen => exact change_take board failure isOpen
      · next closed => exact .idle (.inl (Bool.eq_false_iff.2 closed))
  | giveUp id elapsed =>
      rw [step, conclude_eq]
      exact .giveUp id elapsed
  | arrive packet writable =>
      rw [step]
      split
      · next isOpen =>
          split
          · next isReply =>
              rw [reply]
              split
              · next expected =>
                  rw [conclude_eq]
                  exact .reply isOpen isReply expected
              · next unexpected => exact .acknowledge isOpen isReply unexpected
          · next command => exact change_report board writable isOpen (Bool.eq_false_iff.2 command)
      · next closed => exact .idle (.inl (Bool.eq_false_iff.2 closed))
  | enter thread => exact .enter thread
  | leave thread => exact .leave thread
  | receive =>
      cases waits : board.events.sets with
      | nil =>
          have same : board.events.receive = (none, board.events) := by
            rw [EventQueue.receive, waits]
          have ignores : board.Ignores .receive := waits
          simpa [step, same] using Change.idle ignores
      | cons set rest =>
          have taken : board.events.receive =
              (some set, { board.events with sets := rest }) := by
            rw [EventQueue.receive, waits]
          simpa [step, taken] using Change.receive waits
  | close =>
      rw [step, close]
      split
      · next isOpen => exact .close isOpen
      · next closed => exact .idle (Bool.eq_false_iff.2 closed)

/-- A set that is kept back was reported and arises from running invocations, and the link
undoes its suspension. -/
theorem Change.of_swallow
    {board after : Switchboard} {happening : Happening} {effects : List Effect} {set : EventSet}
    (change : Change board happening after effects) (swallowed : .swallow set ∈ effects) :
    ∃ packet writable, happening = .arrive packet writable ∧ reported? packet = some set ∧
      arisesFromInvocation board.invoking set = true ∧
      effects = .swallow set :: ((board.undoing set).take writable).map .write ∧
      ((resumption set).length ≤ writable →
        after.resumes = board.resumes ++ (board.undoing set).map Command.id) := by
  cases change with
  | @swallow packet writable other isOpen reports arises =>
      simp only [List.mem_cons, List.mem_map, reduceCtorEq, and_false, exists_false, or_false,
        Effect.swallow.injEq] at swallowed
      subst swallowed
      exact ⟨packet, writable, rfl, reports, arises, rfl, fun all => if_pos all⟩
  | _ => simp at swallowed

/-- Only its end closes a link, and for good. -/
theorem Change.isOpen_iff
    {board after : Switchboard} {happening : Happening} {effects : List Effect}
    (change : Change board happening after effects) :
    after.isOpen = true ↔ board.isOpen = true ∧ happening ≠ .close := by
  cases change with
  | close isOpen => simp
  | idle ignores =>
      refine ⟨fun isOpen => ⟨isOpen, ?_⟩, And.left⟩
      rintro rfl
      exact Bool.false_ne_true (ignores.symm.trans isOpen)
  | _ => simp [Switchboard.draft]

end Switchboard

/-- A link is open as long as it was not ended. -/
theorem Reached.isOpen_iff
    {capacity : Nat} {history : History} {board : Switchboard}
    (reached : Reached capacity history board) :
    board.isOpen = true ↔ ∀ entry ∈ history, entry.happening ≠ .close := by
  induction reached with
  | fresh => simp [Switchboard.fresh]
  | @step history board reached happening ih =>
      rw [(board.step_change happening).isOpen_iff, ih, List.forall_mem_append]
      simp

theorem Reached.isOpen_eq_false
    {capacity : Nat} {history : History} {board : Switchboard}
    (reached : Reached capacity history board) {entry : Entry} (member : entry ∈ history)
    (ends : entry.happening = .close) : board.isOpen = false := by
  rw [← Bool.not_eq_true, reached.isOpen_iff]
  exact fun running => running entry member ends

end FrameEval.Link
