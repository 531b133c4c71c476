import FrameEval.Proofs.Link.History
import Mathlib.Data.List.Count

/-!
# The delivery of event sets

An event set that arrives is offered to those who receive events or kept from them, never both,
and it is kept from them just if every one of its events happened to a thread on which an
invocation runs at that moment.  The link resumes threads only on account of a set that it keeps
back.  What is received are offered sets in the order of their arrival, and a set is lost only
while as many sets wait as the queue can hold.
-/

namespace FrameEval.Link

open Wire

/-! ## Running invocations -/

/-- The set that an effect offers. -/
def Effect.offered? : Effect → Option EventSet
  | .offer set => some set
  | _ => none

/-- The set that is received by an effect. -/
def Effect.received? : Effect → Option EventSet
  | .receive set => some set
  | _ => none

namespace Entry

/-- The threads of the running invocations, one for each, after an entry. -/
def invocations (live : List ThreadId) (entry : Entry) : List ThreadId :=
  match entry.happening with
  | .enter thread => thread :: live
  | .leave thread => live.erase thread
  | _ => live

/-- The sets that are offered. -/
def offered (entry : Entry) : List EventSet :=
  entry.effects.filterMap Effect.offered?

/-- The sets that are received. -/
def received (entry : Entry) : List EventSet :=
  entry.effects.filterMap Effect.received?

end Entry

/-- The threads of the invocations that run after a history, one for each of them. -/
def invocations (history : History) : List ThreadId :=
  history.foldl Entry.invocations []

/-- The sets that a history offers. -/
def offered (history : History) : List EventSet :=
  history.flatMap Entry.offered

/-- The sets that are received in a history. -/
def received (history : History) : List EventSet :=
  history.flatMap Entry.received

/-- Every event of a set, and at least one, happened to one of the threads. -/
def ArisesOn (threads : List ThreadId) (set : EventSet) : Prop :=
  set.events ≠ [] ∧
    ∀ event ∈ set.events, ∃ thread ∈ threads, event.details.thread? = some thread

/-- The death of the target and events of unknown kinds happen to no thread. -/
theorem ArisesOn.spares
    {threads : List ThreadId} {set : EventSet} {event : Event}
    (arises : ArisesOn threads set) (member : event ∈ set.events) :
    event.details ≠ .vmDeath ∧ ∀ kind, event.details ≠ .unknown kind := by
  obtain ⟨thread, -, happened⟩ := arises.2 event member
  constructor
  · intro died
    rw [died] at happened
    cases happened
  · intro kind unknown
    rw [unknown] at happened
    cases happened

namespace InvokingThreads

/-- The table counts the running invocations of each thread. -/
def Counts (threads : InvokingThreads) (live : List ThreadId) : Prop :=
  ∀ thread, threads.counts.find? thread =
    if thread ∈ live then some (live.count thread) else none

theorem counts_empty : empty.Counts [] :=
  fun _ => rfl

variable {threads : InvokingThreads} {live : List ThreadId}

theorem Counts.contains_iff (counts : threads.Counts live) (thread : ThreadId) :
    threads.contains thread = true ↔ thread ∈ live := by
  rw [contains, Table.contains, counts]
  split <;> simp_all

theorem Counts.enter (counts : threads.Counts live) (thread : ThreadId) :
    (threads.enter thread).Counts (thread :: live) := by
  intro other
  rw [InvokingThreads.enter]
  by_cases same : other = thread
  · subst same
    rw [Table.find?_insert_self, counts]
    split
    · simp
    · next absent => simp [List.count_eq_zero_of_not_mem absent]
  · rw [Table.find?_insert_ne _ _ same, counts]
    simp [same, Ne.symm same]

theorem Counts.leave (counts : threads.Counts live) (thread : ThreadId) :
    (threads.leave thread).Counts (live.erase thread) := by
  have others {other : ThreadId} (differs : other ≠ thread) :
      threads.counts.find? other =
        if other ∈ live.erase thread then some ((live.erase thread).count other) else none := by
    simp only [counts other, List.mem_erase_of_ne differs, List.count_erase_of_ne differs]
  intro other
  rw [InvokingThreads.leave, counts]
  by_cases runs : thread ∈ live
  · -- The entry goes with the last invocation, so the table holds no zero.
    have positive := List.count_pos_iff.2 runs
    have remains : thread ∈ live.erase thread ↔ ¬ live.count thread ≤ 1 := by
      rw [← List.count_pos_iff, List.count_erase_self]
      omega
    simp only [if_pos runs]
    by_cases same : other = thread
    · subst same
      split
      · next last => simp [remains, last]
      · next more => simp [remains, more]
    · split
      · rw [Table.find?_erase_ne _ same, others same]
      · rw [Table.find?_insert_ne _ _ same, others same]
  · rw [if_neg runs, List.erase_of_not_mem runs]
    exact counts other

end InvokingThreads

theorem arisesFromInvocation_iff
    {threads : InvokingThreads} {live : List ThreadId} (counts : threads.Counts live)
    (set : EventSet) : arisesFromInvocation threads set = true ↔ ArisesOn live set := by
  simp only [arisesFromInvocation, ArisesOn, Bool.and_eq_true, Bool.not_eq_true',
    List.isEmpty_eq_false_iff, List.all_eq_true]
  refine and_congr_right fun _ => forall₂_congr fun event _ => ?_
  cases event.details.thread? with
  | none => simp
  | some thread => simp [counts.contains_iff]

/-- A running invocation starts and ends as callers say, and by nothing else. -/
theorem Switchboard.Change.counts
    {board after : Switchboard} {happening : Happening} {effects : List Effect}
    {live : List ThreadId} (change : Change board happening after effects)
    (counts : board.invoking.Counts live) (counter : PacketId) :
    after.invoking.Counts (Entry.invocations live ⟨happening, counter, effects⟩) := by
  cases change with
  | enter thread => exact counts.enter thread
  | leave thread => exact counts.leave thread
  | idle ignores =>
      cases happening with
      | enter thread => exact ignores.elim
      | leave thread => exact ignores.elim
      | _ => exact counts
  | _ => exact counts

theorem Reached.counts
    {capacity : Nat} {history : History} {board : Switchboard}
    (reached : Reached capacity history board) : board.invoking.Counts (invocations history) := by
  induction reached with
  | fresh => exact InvokingThreads.counts_empty
  | @step history board reached happening ih =>
      rw [invocations, List.foldl_append]
      exact (board.step_change happening).counts ih board.nextId

/-! ## What becomes of a set -/

namespace Switchboard

variable {board after : Switchboard} {happening : Happening} {effects : List Effect}

/-- A reported set is offered, or kept back when it arises from running invocations. -/
theorem Change.arrived
    {packet : Packet} {writable : Nat} {set : EventSet}
    (change : Change board (.arrive packet writable) after effects)
    (isOpen : board.isOpen = true) (reports : reported? packet = some set) :
    effects = [.offer set] ∧ arisesFromInvocation board.invoking set = false ∨
      (∃ commands : List Command, effects = .swallow set :: commands.map .write) ∧
        arisesFromInvocation board.invoking set = true := by
  have command := isReply_of_reported reports
  cases change with
  | reply _ isReply expected => simp [isReply] at command
  | acknowledge _ isReply unexpected => simp [isReply] at command
  | swallow _ other arises =>
      obtain rfl := Option.some.inj (other.symm.trans reports)
      exact .inr ⟨⟨_, rfl⟩, arises⟩
  | offer _ other arises =>
      obtain rfl := Option.some.inj (other.symm.trans reports)
      exact .inl ⟨rfl, arises⟩
  | idle ignores =>
      rcases ignores with shut | ⟨-, silent⟩
      · simp [isOpen] at shut
      · simp [reports] at silent

/-- Only reported sets are offered or kept back. -/
theorem Change.reported
    {set : EventSet} (change : Change board happening after effects)
    (appears : .offer set ∈ effects ∨ .swallow set ∈ effects) :
    ∃ packet writable, happening = .arrive packet writable ∧ reported? packet = some set := by
  rcases appears with offered | swallowed
  · cases change with
    | @offer packet writable other isOpen reports arises =>
        obtain rfl := Effect.offer.inj (List.mem_singleton.1 offered)
        exact ⟨packet, writable, rfl, reports⟩
    | _ => simp at offered
  · obtain ⟨packet, writable, happened, reports, -⟩ := change.of_swallow swallowed
    exact ⟨packet, writable, happened, reports⟩

/-- The link writes a command of a caller, or undoes the suspension of a set it keeps back. -/
theorem Change.sent
    {command : Command} (change : Change board happening after effects)
    (written : .write command ∈ effects) :
    happening = .take none ∨ ∃ set, .swallow set ∈ effects ∧ command ∈ board.undoing set := by
  cases change with
  | write isOpen queued => exact .inl rfl
  | @swallow packet writable set isOpen reports arises =>
      refine .inr ⟨set, List.mem_cons_self, ?_⟩
      simp only [List.mem_cons, List.mem_map, reduceCtorEq, Effect.write.injEq, exists_eq_right,
        false_or] at written
      exact List.mem_of_mem_take written
  | _ => simp at written

theorem offered_eq_nil (silent : ∀ set, .offer set ∉ effects) :
    effects.filterMap Effect.offered? = [] := by
  refine List.filterMap_eq_nil_iff.2 fun effect member => ?_
  cases effect with
  | offer set => exact (silent set member).elim
  | _ => rfl

theorem received_eq_nil (silent : ∀ set, .receive set ∉ effects) :
    effects.filterMap Effect.received? = [] := by
  refine List.filterMap_eq_nil_iff.2 fun effect member => ?_
  cases effect with
  | receive set => exact (silent set member).elim
  | _ => rfl

/-- What happens to the queue: a set is offered to it or taken from it, or it stays. -/
theorem Change.queued
    (change : Change board happening after effects) :
    (∃ set, effects = [.offer set] ∧ after.events = board.events.offer set) ∨
      (∃ set rest, effects = [.receive set] ∧ board.events.sets = set :: rest ∧
        after.events = { board.events with sets := rest }) ∨
      effects.filterMap Effect.offered? = [] ∧ effects.filterMap Effect.received? = [] ∧
        after.events = board.events := by
  cases change with
  | offer isOpen reports arises => exact .inl ⟨_, rfl, rfl⟩
  | receive waits => exact .inr (.inl ⟨_, _, rfl, waits, rfl⟩)
  | _ => exact .inr (.inr ⟨offered_eq_nil (by simp), received_eq_nil (by simp), rfl⟩)

/-- Whoever asks gets the oldest set. -/
theorem Change.served
    (change : Change board .receive after effects) :
    effects = (board.events.sets.head?.map Effect.receive).toList := by
  cases change with
  | receive waits => simp [waits]
  | idle ignores => 
    change board.events.sets = [] at ignores
    simp [ignores]

end Switchboard

/-! ## The queue -/

/-- The offered sets that are kept, in order.  A set is lost if as many kept ones as there is
room for were not received yet. -/
inductive Kept (capacity : Nat) : History → List EventSet → Prop where
  | fresh : Kept capacity [] []
  | keep
      {history : History} {sets : List EventSet} {entry : Entry} {set : EventSet}
      (kept : Kept capacity history sets) (offers : entry.effects = [.offer set])
      (room : sets.length < (received history).length + capacity) :
      Kept capacity (history ++ [entry]) (sets ++ [set])
  | lose
      {history : History} {sets : List EventSet} {entry : Entry} {set : EventSet}
      (kept : Kept capacity history sets) (offers : entry.effects = [.offer set])
      (full : (received history).length + capacity ≤ sets.length) :
      Kept capacity (history ++ [entry]) sets
  | other
      {history : History} {sets : List EventSet} {entry : Entry}
      (kept : Kept capacity history sets) (offers : entry.offered = []) :
      Kept capacity (history ++ [entry]) sets

theorem offered_concat (history : History) (entry : Entry) :
    offered (history ++ [entry]) = offered history ++ entry.offered := by
  simp [offered]

theorem received_concat (history : History) (entry : Entry) :
    received (history ++ [entry]) = received history ++ entry.received := by
  simp [received]

theorem Kept.sublist
    {capacity : Nat} {history : History} {sets : List EventSet}
    (kept : Kept capacity history sets) : sets.Sublist (offered history) := by
  induction kept with
  | fresh => exact .refl []
  | @keep history sets entry set kept offers room ih =>
      have now : entry.offered = [set] := by rw [Entry.offered, offers]; rfl
      rw [offered_concat, now]
      exact ih.append (.refl [set])
  | lose kept offers full ih =>
      rw [offered_concat]
      exact ih.trans (List.sublist_append_left _ _)
  | other kept offers ih => rwa [offered_concat, offers, List.append_nil]

/-- The received sets followed by the waiting ones are the kept ones. -/
theorem Reached.kept
    {capacity : Nat} {history : History} {board : Switchboard}
    (reached : Reached capacity history board) :
    Kept capacity history (received history ++ board.events.sets) ∧
      board.events.capacity = capacity := by
  induction reached with
  | fresh => exact ⟨.fresh, rfl⟩
  | @step history board reached happening ih =>
      obtain ⟨kept, size⟩ := ih
      rw [received_concat]
      rcases (board.step_change happening).queued with
        ⟨set, offers, after⟩ | ⟨set, rest, receives, waits, after⟩ | ⟨offers, receives, after⟩
      · have unreceived : (board.entry happening).received = [] := by
          rw [Entry.received, Switchboard.effects_entry, offers]
          rfl
        rw [after, unreceived, List.append_nil, EventQueue.offer]
        split
        · next full =>
            refine ⟨kept.lose offers ?_, size⟩
            simpa [EventQueue.isFull, size] using full
        · next room =>
            rw [← List.append_assoc]
            refine ⟨kept.keep offers ?_, size⟩
            simpa [EventQueue.isFull, size] using room
      · have now : (board.entry happening).received = [set] := by
          rw [Entry.received, Switchboard.effects_entry, receives]
          rfl
        have unoffered : (board.entry happening).offered = [] := by
          rw [Entry.offered, Switchboard.effects_entry, receives]
          rfl
        rw [after, now, List.append_assoc, List.singleton_append, ← waits]
        exact ⟨kept.other unoffered, size⟩
      · have unreceived : (board.entry happening).received = [] := receives
        rw [after, unreceived, List.append_nil]
        exact ⟨kept.other offers, size⟩

/-! ## Delivery -/

/-- What becomes of the event sets that a target reports. -/
structure Delivery (capacity : Nat) (history : History) (board : Switchboard) : Prop where
  /-- While the link is open a set that arrives is offered once or kept back, never both, and
  kept back just if it arises on threads with running invocations. -/
  arrived : ∀ before entry after, history = before ++ entry :: after →
    (∀ earlier ∈ before, earlier.happening ≠ .close) →
    ∀ packet writable, entry.happening = .arrive packet writable →
      ∀ set, reported? packet = some set →
        entry.effects = [.offer set] ∧ ¬ ArisesOn (invocations before) set ∨
          (∃ commands : List Command, entry.effects = .swallow set :: commands.map .write) ∧
            ArisesOn (invocations before) set
  /-- No other set is offered or kept back. -/
  reported : ∀ entry ∈ history, ∀ set, .offer set ∈ entry.effects ∨ .swallow set ∈ entry.effects →
    ∃ packet writable, entry.happening = .arrive packet writable ∧ reported? packet = some set
  /-- The death of the target and events of unknown kinds are not kept back. -/
  spared : ∀ entry ∈ history, ∀ set, .swallow set ∈ entry.effects → ∀ event ∈ set.events,
    event.details ≠ .vmDeath ∧ ∀ kind, event.details ≠ .unknown kind
  /-- Apart from the commands of callers only those are sent that undo the suspension of a set
  that is kept back. -/
  sent : ∀ entry ∈ history, ∀ command, .write command ∈ entry.effects →
    entry.happening = .take none ∨ ∃ set, .swallow set ∈ entry.effects ∧
      command ∈ Switchboard.number entry.counter (resumption set)
  /-- The kept sets are received in order, and the rest of them waits. -/
  kept : Kept capacity history (received history ++ board.events.sets)
  /-- What is received is a subsequence of what is offered. -/
  inOrder : (received history).Sublist (offered history)
  /-- Whoever asks receives the oldest kept set that was not received. -/
  served : ∀ before entry after, history = before ++ entry :: after →
    entry.happening = .receive → ∃ waiting, Kept capacity before (received before ++ waiting) ∧
      entry.effects = (waiting.head?.map Effect.receive).toList

/-- Every history of a link delivers event sets in this way, whatever the interleaving. -/
theorem events_are_delivered (capacity : Nat) (happenings : List Happening) :
    Delivery capacity ((Switchboard.fresh capacity).history happenings)
      ((Switchboard.fresh capacity).run happenings).1 := by
  have reached := reached_run capacity happenings
  generalize (Switchboard.fresh capacity).history happenings = history at reached ⊢
  generalize ((Switchboard.fresh capacity).run happenings).1 = board at reached ⊢
  refine
    { arrived := ?arrived
      reported := ?reported
      spared := ?spared
      sent := ?sent
      kept := reached.kept.1
      inOrder := (List.sublist_append_left _ _).trans reached.kept.1.sublist
      served := ?served }
  case arrived =>
    rintro before entry after rfl running packet writable arrives set reports
    obtain ⟨middle, earlier, made⟩ := reached.split
    rw [arrives] at made
    rw [made, ← arisesFromInvocation_iff earlier.counts, Bool.not_eq_true]
    exact (middle.step_change _).arrived (earlier.isOpen_iff.2 running) reports
  case reported =>
    intro entry member set appears
    obtain ⟨middle, made⟩ := reached.made member
    rw [made] at appears
    exact (middle.step_change _).reported appears
  case spared =>
    intro entry member set swallowed event named
    obtain ⟨before, after, rfl⟩ := List.append_of_mem member
    obtain ⟨middle, earlier, made⟩ := reached.split
    rw [made] at swallowed
    obtain ⟨_, _, -, -, arises, -⟩ := (middle.step_change _).of_swallow swallowed
    rw [arisesFromInvocation_iff earlier.counts] at arises
    exact arises.spares named
  case sent =>
    intro entry member command written
    obtain ⟨middle, made⟩ := reached.made member
    rw [made] at written ⊢
    exact (middle.step_change _).sent written
  case served =>
    rintro before entry after rfl asks
    obtain ⟨middle, earlier, made⟩ := reached.split
    rw [asks] at made
    refine ⟨middle.events.sets, earlier.kept.1, ?_⟩
    rw [made]
    exact (middle.step_change _).served

end FrameEval.Link
