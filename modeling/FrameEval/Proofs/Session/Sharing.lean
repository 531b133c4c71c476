import FrameEval.Proofs.Session.Visits
import FrameEval.Session.ThreadTable
import Mathlib.Data.List.Nodup

/-!
# A table of threads that visits share

Any number of visits go on beside one another and share one table of threads.  A visit may
arrive at any time, goes on by one request at a time, and may be abandoned at any time: while
it waits, while it binds and while it holds a context.

`Change` says once what a single happening does, in terms of the phase of its visit, and
`Orderly` is the invariant: a visit that is inside stands at the head of the queue of its
thread, and what was issued on a thread before somebody else's operation was issued by visits
that are over.
-/

namespace FrameEval.Session

open Wire

namespace ThreadTable

variable {Party : Type} {table : ThreadTable Party} {thread other : ThreadId}
  {party holder : Party}

theorem mem_queue_acquire :
    holder ∈ (table.acquire thread party).queue other ↔
      holder ∈ table.queue other ∨ other = thread ∧ holder = party := by
  by_cases same : other = thread
  · rw [same, queue_acquire_self]
    simp
  · rw [queue_acquire_ne table party same]
    simp [same]

theorem holder?_acquire (holds : table.holder? other = some holder) :
    (table.acquire thread party).holder? other = some holder := by
  rw [holder?] at holds ⊢
  by_cases same : other = thread
  · rw [same] at holds
    rw [same, queue_acquire_self, List.head?_append, holds, Option.some_or]
  · rw [queue_acquire_ne table party same]
    exact holds

variable [DecidableEq Party]

theorem queue_release_sublist :
    ((table.release thread party).queue other).Sublist (table.queue other) := by
  by_cases same : other = thread
  · rw [same, queue_release_self]
    exact List.erase_sublist
  · rw [queue_release_ne table party same]

theorem not_mem_queue_release (distinct : (table.queue thread).Nodup) :
    party ∉ (table.release thread party).queue thread := by
  rw [queue_release_self]
  exact distinct.not_mem_erase

theorem holder?_release (holds : table.holder? other = some holder) (differs : holder ≠ party) :
    (table.release thread party).holder? other = some holder := by
  rw [holder?] at holds ⊢
  by_cases same : other = thread
  · rw [same] at holds
    rcases List.head?_eq_some_iff.1 holds with ⟨rest, whole⟩
    rw [same, queue_release_self, whole, List.erase_cons_tail (by simpa using differs)]
    rfl
  · rw [queue_release_ne table party same]
    exact holds

end ThreadTable

/-- Who visits a thread. -/
structure Visitor where
  thread : ThreadId
  number : Nat
  deriving DecidableEq

/-- What is left of a visit. -/
inductive Stage where
  | present (rest : Program (Except Halt RemoteValue))
  /-- The visit was dropped before its end. -/
  | abandoned

/-- How far a visit has come. -/
inductive Phase where
  | waiting
  /-- The visit has its thread. -/
  | inside
  | finished
  deriving DecidableEq

def Stage.phase : Stage → Phase
  | .present (.ask (.acquire _) _) => .waiting
  | .present (.ask _ _) => .inside
  | .present (.done _) => .finished
  | .abandoned => .finished

/-- An operation and the visit that issued it. -/
structure Issue where
  visitor : Visitor
  operation : Operation

/-- Visits that share a table of threads. -/
structure Sharing where
  threads : ThreadTable Visitor
  visits : Table Visitor Stage
  /-- The operations in the order in which they were issued. -/
  issued : List Issue

/-- The operations that an inquiry sends to the target. -/
def operationsOf : Inquiry → List Operation
  | .operation operation => [operation]
  | .cancelled => []

namespace Sharing

def empty : Sharing := ⟨.empty, .empty, []⟩

/-- What happens to visits. -/
inductive Happening where
  /-- A visit begins. -/
  | arrive (visitor : Visitor) (depth : Nat)
      (use : Context → Dialogue Inquiry Inquiry.Answer (Except Halt RemoteValue))
  /-- A visit goes on; the answers are those of the target. -/
  | proceed (visitor : Visitor) (answers : (inquiry : Inquiry) → inquiry.Answer)
  /-- A visit is dropped. -/
  | abandon (visitor : Visitor)

/-- Whose visit it is. -/
def Happening.visitor : Happening → Visitor
  | arrive visitor _ _ => visitor
  | proceed visitor _ => visitor
  | abandon visitor => visitor

/-- The visit of a visitor has come to a stage. -/
def set (visitor : Visitor) (stage : Stage) (sharing : Sharing) : Sharing :=
  { sharing with visits := sharing.visits.insert visitor stage }

/-- A visitor queues up for a thread. -/
def queueUp (thread : ThreadId) (visitor : Visitor) (sharing : Sharing) : Sharing :=
  { sharing with threads := sharing.threads.acquire thread visitor }

/-- A visitor gives up a thread, or a place in its queue. -/
def giveUp (thread : ThreadId) (visitor : Visitor) (sharing : Sharing) : Sharing :=
  { sharing with threads := sharing.threads.release thread visitor }

/-- A visitor issues operations. -/
def note (visitor : Visitor) (operations : List Operation) (sharing : Sharing) : Sharing :=
  { sharing with issued := sharing.issued ++ operations.map (Issue.mk visitor) }

/-- A visitor who is not known yet comes to a thread. -/
def arrive
    (visitor : Visitor) (depth : Nat)
    (use : Context → Dialogue Inquiry Inquiry.Answer (Except Halt RemoteValue))
    (sharing : Sharing) : Sharing :=
  match sharing.visits.find? visitor with
  | none => sharing.set visitor (.present (visit visitor.thread depth use))
  | some _ => sharing

/-- A visit makes its next request.  Whoever asks for a thread queues up for it once, and goes
on when nobody is in front any more. -/
def proceed
    (visitor : Visitor) (answers : (inquiry : Inquiry) → inquiry.Answer) (sharing : Sharing) :
    Sharing :=
  match sharing.visits.find? visitor with
  | some (.present (.ask (.acquire thread) next)) =>
      if sharing.threads.holder? thread = some visitor then
        sharing.set visitor (.present (next ()))
      else if visitor ∈ sharing.threads.queue thread then sharing
      else sharing.queueUp thread visitor
  | some (.present (.ask (.inquiry inquiry) next)) =>
      (sharing.set visitor (.present (next (answers inquiry)))).note visitor
        (operationsOf inquiry)
  | some (.present (.ask (.release thread) next)) =>
      (sharing.set visitor (.present (next ()))).giveUp thread visitor
  | _ => sharing

/-- A visit that is not over is dropped, and with it its place in the queue. -/
def abandon (visitor : Visitor) (sharing : Sharing) : Sharing :=
  match sharing.visits.find? visitor with
  | some (.present (.ask _ _)) =>
      (sharing.set visitor .abandoned).giveUp visitor.thread visitor
  | _ => sharing

/-- What a happening does. -/
def step (sharing : Sharing) : Happening → Sharing
  | .arrive visitor depth use => sharing.arrive visitor depth use
  | .proceed visitor answers => sharing.proceed visitor answers
  | .abandon visitor => sharing.abandon visitor

/-- What happenings do, one after another. -/
def run (sharing : Sharing) (happenings : List Happening) : Sharing :=
  happenings.foldl step sharing

/-- How far the visit of a visitor has come. -/
def phase? (sharing : Sharing) (visitor : Visitor) : Option Phase :=
  (sharing.visits.find? visitor).map Stage.phase

@[simp]
theorem phase?_set_self (sharing : Sharing) (visitor : Visitor) (stage : Stage) :
    (sharing.set visitor stage).phase? visitor = some stage.phase := by
  simp [phase?, set]

@[simp]
theorem phase?_set_ne
    (sharing : Sharing) {visitor other : Visitor} (stage : Stage) (differs : other ≠ visitor) :
    (sharing.set visitor stage).phase? other = sharing.phase? other := by
  simp [phase?, set, differs]

@[simp]
theorem phase?_queueUp (sharing : Sharing) (thread : ThreadId) (visitor other : Visitor) :
    (sharing.queueUp thread visitor).phase? other = sharing.phase? other := rfl

@[simp]
theorem phase?_giveUp (sharing : Sharing) (thread : ThreadId) (visitor other : Visitor) :
    (sharing.giveUp thread visitor).phase? other = sharing.phase? other := rfl

@[simp]
theorem phase?_note
    (sharing : Sharing) (visitor other : Visitor) (operations : List Operation) :
    (sharing.note visitor operations).phase? other = sharing.phase? other := rfl

/-! ## What a happening does -/

/-- What is left of a visit to a thread. -/
inductive Follows (thread : ThreadId) : Program (Except Halt RemoteValue) → Prop where
  | waits
      {next : Unit → Program (Except Halt RemoteValue)} (holds : Holds thread (next ())) :
      Follows thread (.ask (.acquire thread) next)
  | inside
      {rest : Program (Except Halt RemoteValue)} (holds : Holds thread rest) :
      Follows thread rest
  | finished (result : Except Halt RemoteValue) : Follows thread (.done result)

theorem phase_of_holds
    {thread : ThreadId} {rest : Program (Except Halt RemoteValue)} (holds : Holds thread rest) :
    (Stage.present rest).phase = .inside := by
  cases holds <;> rfl

/-- Every visit keeps to its course. -/
def Lawful (sharing : Sharing) : Prop :=
  ∀ visitor rest, sharing.visits.find? visitor = some (.present rest) →
    Follows visitor.thread rest

theorem lawful_empty : Lawful empty := by
  intro visitor rest found
  cases found

theorem Lawful.set
    {sharing : Sharing} (lawful : Lawful sharing) (visitor : Visitor) {stage : Stage}
    (follows : ∀ rest, stage = .present rest → Follows visitor.thread rest) :
    Lawful (sharing.set visitor stage) := by
  intro other rest found
  by_cases same : other = visitor
  · subst same
    rw [Sharing.set, Table.find?_insert_self, Option.some.injEq] at found
    exact follows rest found
  · rw [Sharing.set, Table.find?_insert_ne _ _ same] at found
    exact lawful other rest found

/-- What a happening can do to its visit and to the others. -/
inductive Change (before : Sharing) (visitor : Visitor) : Sharing → Prop where
  | idle : Change before visitor before
  | arrive
      {stage : Stage} (unknown : before.phase? visitor = none) (phase : stage.phase = .waiting) :
      Change before visitor (before.set visitor stage)
  | queue
      (waits : before.phase? visitor = some .waiting)
      (absent : visitor ∉ before.threads.queue visitor.thread) :
      Change before visitor (before.queueUp visitor.thread visitor)
  | enter
      {stage : Stage} (waits : before.phase? visitor = some .waiting)
      (first : before.threads.holder? visitor.thread = some visitor)
      (phase : stage.phase = .inside) :
      Change before visitor (before.set visitor stage)
  | issue
      {stage : Stage} (inside : before.phase? visitor = some .inside)
      (phase : stage.phase = .inside) (operations : List Operation) :
      Change before visitor ((before.set visitor stage).note visitor operations)
  | leave
      {stage : Stage} (phase : stage.phase = .finished) :
      Change before visitor ((before.set visitor stage).giveUp visitor.thread visitor)

section

variable {before : Sharing} (lawful : Lawful before)

include lawful

theorem change_arrive
    (visitor : Visitor) (depth : Nat)
    (use : Context → Dialogue Inquiry Inquiry.Answer (Except Halt RemoteValue)) :
    Change before visitor (before.arrive visitor depth use) ∧
      Lawful (before.arrive visitor depth use) := by
  rw [Sharing.arrive]
  rcases holds_visit visitor.thread depth use with ⟨next, starts, holds⟩
  cases found : before.visits.find? visitor with
  | some stage => exact ⟨.idle, lawful⟩
  | none =>
      constructor
      · apply Change.arrive
        · rw [phase?, found, Option.map_none]
        · rw [starts]
          rfl
      · apply lawful.set
        rintro rest ⟨⟩
        rw [starts]
        exact .waits holds

theorem change_proceed
    (visitor : Visitor) (answers : (inquiry : Inquiry) → inquiry.Answer) :
    Change before visitor (before.proceed visitor answers) ∧
      Lawful (before.proceed visitor answers) := by
  rw [Sharing.proceed]
  split
  · next thread onward found =>
      have waits : before.phase? visitor = some .waiting := by rw [phase?, found]; rfl
      cases lawful visitor _ found with
      | inside holds => cases holds
      | waits holds =>
          split
          · next first =>
              refine ⟨.enter waits first (phase_of_holds holds), lawful.set visitor ?_⟩
              rintro rest ⟨⟩
              exact .inside holds
          · split
            · exact ⟨.idle, lawful⟩
            · next absent => exact ⟨.queue waits absent, lawful⟩
  · next inquiry onward found =>
      have inside : before.phase? visitor = some .inside := by rw [phase?, found]; rfl
      have holds : Holds visitor.thread (onward (answers inquiry)) := by
        cases lawful visitor _ found with
        | inside holds =>
            cases holds with
            | inquire kept => exact kept (answers inquiry)
      refine ⟨.issue inside (phase_of_holds holds) _, ?_⟩
      apply lawful.set visitor
      rintro rest ⟨⟩
      exact .inside holds
  · next thread onward found =>
      cases lawful visitor _ found with
      | inside holds =>
          cases holds with
          | @leave _ result finished =>
              rw [finished]
              refine ⟨.leave rfl, ?_⟩
              apply lawful.set visitor
              rintro rest ⟨⟩
              exact .finished result
  · exact ⟨.idle, lawful⟩

theorem change_abandon (visitor : Visitor) :
    Change before visitor (before.abandon visitor) ∧ Lawful (before.abandon visitor) := by
  rw [Sharing.abandon]
  split
  · constructor
    · exact .leave rfl
    · apply lawful.set
      rintro rest ⟨⟩
  · exact ⟨.idle, lawful⟩

/-- Every step is one of the described changes. -/
theorem step_change (happening : Happening) :
    Change before happening.visitor (before.step happening) ∧ Lawful (before.step happening) := by
  cases happening with
  | arrive visitor depth use => exact change_arrive lawful visitor depth use
  | proceed visitor answers => exact change_proceed lawful visitor answers
  | abandon visitor => exact change_abandon lawful visitor

end

section

variable {before after : Sharing} {visitor other : Visitor}

theorem Change.phase?_ne
    (change : Change before visitor after) (differs : other ≠ visitor) :
    after.phase? other = before.phase? other := by
  cases change <;> simp [differs]

/-- What is over stays over. -/
theorem Change.finished
    (change : Change before visitor after) (finished : before.phase? other = some .finished) :
    after.phase? other = some .finished := by
  by_cases same : other = visitor
  · subst same
    cases change with
    | arrive unknown phase => simp [unknown] at finished
    | enter waits first phase => simp [waits] at finished
    | issue inside phase operations => simp [inside] at finished
    | leave phase => simp [phase]
    | _ => exact finished
  · rw [change.phase?_ne same]
    exact finished

/-- Nobody who was inside waits again. -/
theorem Change.inside
    (change : Change before visitor after) (inside : before.phase? other = some .inside) :
    after.phase? other = some .inside ∨ after.phase? other = some .finished := by
  by_cases same : other = visitor
  · subst same
    cases change with
    | arrive unknown phase => simp [unknown] at inside
    | enter waits first phase => simp [waits] at inside
    | issue inside phase operations => simp [phase]
    | leave phase => simp [phase]
    | _ => exact .inl inside
  · rw [change.phase?_ne same]
    exact .inl inside

/-! ## The invariant -/

/-- What the happenings keep. -/
structure Orderly (sharing : Sharing) : Prop where
  /-- Nobody queues up twice. -/
  distinct : ∀ thread, (sharing.threads.queue thread).Nodup
  /-- Only unfinished visits to a thread queue up for it. -/
  queued : ∀ thread, ∀ visitor ∈ sharing.threads.queue thread,
    visitor.thread = thread ∧
      (sharing.phase? visitor = some .waiting ∨ sharing.phase? visitor = some .inside)
  /-- Whoever is inside is the first in the queue. -/
  first : ∀ visitor, sharing.phase? visitor = some .inside →
    sharing.threads.holder? visitor.thread = some visitor
  /-- Whoever issued an operation has come inside. -/
  entered : ∀ issue ∈ sharing.issued,
    sharing.phase? issue.visitor = some .inside ∨ sharing.phase? issue.visitor = some .finished
  /-- Whoever issued an operation before somebody else on the same thread is over. -/
  succeeded : ∀ earlier later, [earlier, later].Sublist sharing.issued →
    later.visitor.thread = earlier.visitor.thread → later.visitor ≠ earlier.visitor →
      sharing.phase? earlier.visitor = some .finished
  /-- Between two operations of one visit no other visit issues one on the same thread. -/
  apart : ∀ first second third, [first, second, third].Sublist sharing.issued →
    third.visitor = first.visitor → second.visitor.thread = first.visitor.thread →
      second.visitor = first.visitor

theorem orderly_empty : Orderly empty where
  distinct := by simp [empty]
  queued := by simp [empty]
  first := by simp [empty, phase?]
  entered := by simp [empty]
  succeeded := by simp [empty]
  apart := by simp [empty]

/-- Two visits inside one thread are the same. -/
theorem Orderly.eq_of_inside
    (orderly : Orderly before) (inside : before.phase? visitor = some .inside)
    (insideToo : before.phase? other = some .inside) (same : visitor.thread = other.thread) :
    visitor = other := by
  have one := orderly.first visitor inside
  have two := orderly.first other insideToo
  rw [same, two, Option.some.injEq] at one
  exact one.symm

/-- Nobody queues up twice, whatever happens. -/
theorem Orderly.distinct_change
    (orderly : Orderly before) (change : Change before visitor after) (thread : ThreadId) :
    (after.threads.queue thread).Nodup := by
  cases change with
  | queue waits absent =>
      rw [queueUp]
      by_cases same : thread = visitor.thread
      · rw [same, ThreadTable.queue_acquire_self, ← List.concat_eq_append]
        exact (orderly.distinct _).concat absent
      · rw [ThreadTable.queue_acquire_ne _ _ same]
        exact orderly.distinct thread
  | leave phase => exact (orderly.distinct thread).sublist ThreadTable.queue_release_sublist
  | _ => exact orderly.distinct thread

/-- Whoever queues up after a happening queued up before, or has just come. -/
theorem Orderly.queued_change
    (orderly : Orderly before) (change : Change before visitor after) (thread : ThreadId)
    (member : other ∈ after.threads.queue thread) :
    other.thread = thread ∧
      (after.phase? other = some .waiting ∨ after.phase? other = some .inside) := by
  by_cases same : other = visitor
  · subst same
    cases change with
    | idle => exact orderly.queued thread other member
    | queue waits absent =>
        rcases ThreadTable.mem_queue_acquire.1 member with old | ⟨rfl, -⟩
        · exact orderly.queued thread other old
        · exact ⟨rfl, .inl waits⟩
    | arrive unknown phase =>
        rcases orderly.queued thread other member with ⟨-, waits | inside⟩
        · simp [unknown] at waits
        · simp [unknown] at inside
    | enter waits first phase =>
        exact ⟨(orderly.queued thread other member).1, .inr (by simp [phase])⟩
    | issue inside phase operations =>
        exact ⟨(orderly.queued thread other member).1, .inr (by simp [phase])⟩
    | leave phase =>
        have old := ThreadTable.queue_release_sublist.subset member
        rcases orderly.queued thread other old with ⟨rfl, -⟩
        exact (ThreadTable.not_mem_queue_release (orderly.distinct _) member).elim
  · rw [change.phase?_ne same]
    apply orderly.queued thread other
    cases change with
    | queue waits absent =>
        rcases ThreadTable.mem_queue_acquire.1 member with old | ⟨-, rfl⟩
        · exact old
        · exact (same rfl).elim
    | leave phase => exact ThreadTable.queue_release_sublist.subset member
    | _ => exact member

/-- Whoever is inside stays at the head of the queue, and whoever enters stands there. -/
theorem Orderly.first_change
    (orderly : Orderly before) (change : Change before visitor after)
    (inside : after.phase? other = some .inside) :
    after.threads.holder? other.thread = some other := by
  by_cases same : other = visitor
  · subst same
    cases change with
    | idle => exact orderly.first other inside
    | queue waits absent => simp [waits] at inside
    | arrive unknown phase => simp [phase] at inside
    | enter waits first phase => exact first
    | issue asks phase operations => exact orderly.first other asks
    | leave phase => simp [phase] at inside
  · rw [change.phase?_ne same] at inside
    have first := orderly.first other inside
    cases change with
    | queue waits absent => exact ThreadTable.holder?_acquire first
    | leave phase => exact ThreadTable.holder?_release first same
    | _ => exact first

/-- What a happening adds to the operations was issued by a visit inside its thread. -/
theorem Change.issued
    (change : Change before visitor after) :
    after.issued = before.issued ∨
      before.phase? visitor = some .inside ∧ after.phase? visitor = some .inside ∧
        ∃ operations : List Operation,
          after.issued = before.issued ++ operations.map (Issue.mk visitor) := by
  cases change with
  | issue inside phase operations => exact .inr ⟨inside, by simp [phase], operations, rfl⟩
  | _ => exact .inl rfl

theorem Orderly.entered_change
    (orderly : Orderly before) (change : Change before visitor after) {issue : Issue}
    (member : issue ∈ after.issued) :
    after.phase? issue.visitor = some .inside ∨ after.phase? issue.visitor = some .finished := by
  have kept : issue ∈ before.issued →
      after.phase? issue.visitor = some .inside ∨ after.phase? issue.visitor = some .finished := by
    intro old
    rcases orderly.entered issue old with inside | finished
    · exact change.inside inside
    · exact .inr (change.finished finished)
  rcases change.issued with same | ⟨-, inside, operations, more⟩
  · rw [same] at member
    exact kept member
  · rw [more] at member
    rcases List.mem_append.1 member with old | new
    · exact kept old
    · rcases List.mem_map.1 new with ⟨operation, -, rfl⟩
      exact .inl inside

/-- An earlier operation on the thread of a visit that is inside is its own, or its visit is
over. -/
theorem Orderly.finished_of_inside
    (orderly : Orderly before) (inside : before.phase? visitor = some .inside) {issue : Issue}
    (member : issue ∈ before.issued) (same : visitor.thread = issue.visitor.thread)
    (differs : visitor ≠ issue.visitor) : before.phase? issue.visitor = some .finished := by
  rcases orderly.entered issue member with insideToo | finished
  · exact (differs (orderly.eq_of_inside inside insideToo same)).elim
  · exact finished

/-- The last of some operations was issued before, as they all were, or by the visitor who
issues more. -/
theorem sublist_issued
    {issued : List Issue} (front : List Issue) {last : Issue} {operations : List Operation}
    (ordered : (front ++ [last]).Sublist (issued ++ operations.map (Issue.mk visitor))) :
    (front ++ [last]).Sublist issued ∨ last.visitor = visitor := by
  rcases List.sublist_append_iff.1 ordered with ⟨left, right, whole, old, new⟩
  rcases List.eq_nil_or_concat right with rfl | ⟨rest, final, rfl⟩
  · rw [whole, List.append_nil]
    exact .inl old
  · rw [List.concat_eq_append, ← List.append_assoc] at whole
    rcases List.append_inj' whole rfl with ⟨-, same⟩
    rw [List.singleton_inj.1 same]
    have member := new.subset (by simp : final ∈ rest.concat final)
    rcases List.mem_map.1 member with ⟨operation, -, rfl⟩
    exact .inr rfl

theorem Orderly.succeeded_change
    (orderly : Orderly before) (change : Change before visitor after) {earlier later : Issue}
    (ordered : [earlier, later].Sublist after.issued)
    (same : later.visitor.thread = earlier.visitor.thread)
    (differs : later.visitor ≠ earlier.visitor) :
    after.phase? earlier.visitor = some .finished := by
  apply change.finished
  rcases change.issued with kept | ⟨inside, -, operations, more⟩
  · rw [kept] at ordered
    exact orderly.succeeded earlier later ordered same differs
  · rw [more] at ordered
    rcases sublist_issued [earlier] ordered with old | new
    · exact orderly.succeeded earlier later old same differs
    · rw [new] at same differs
      have member := ordered.subset List.mem_cons_self
      rcases List.mem_append.1 member with old | own
      · exact orderly.finished_of_inside inside old same differs
      · rcases List.mem_map.1 own with ⟨operation, -, rfl⟩
        exact (differs rfl).elim

theorem Orderly.apart_change
    (orderly : Orderly before) (change : Change before visitor after)
    {first second third : Issue} (ordered : [first, second, third].Sublist after.issued)
    (returns : third.visitor = first.visitor)
    (same : second.visitor.thread = first.visitor.thread) :
    second.visitor = first.visitor := by
  rcases change.issued with kept | ⟨inside, -, operations, more⟩
  · rw [kept] at ordered
    exact orderly.apart first second third ordered returns same
  · rw [more] at ordered
    rcases sublist_issued [first, second] ordered with old | new
    · exact orderly.apart first second third old returns same
    have pair : [first, second].Sublist _ :=
      (List.sublist_append_left [first, second] [third]).trans ordered
    rcases sublist_issued [first] pair with old | newToo
    · by_contra differs
      have finished := orderly.succeeded first second old same differs
      rw [← returns, new, inside] at finished
      cases finished
    · rw [newToo, ← new, returns]

theorem Orderly.change
    (orderly : Orderly before) (change : Change before visitor after) : Orderly after where
  distinct := orderly.distinct_change change
  queued := fun thread _ member => orderly.queued_change change thread member
  first := fun _ inside => orderly.first_change change inside
  entered := fun _ member => orderly.entered_change change member
  succeeded := fun _ _ ordered => orderly.succeeded_change change ordered
  apart := fun _ _ _ ordered => orderly.apart_change change ordered

end

/-- Every run of visits is orderly. -/
theorem orderly_run (happenings : List Happening) :
    Orderly (empty.run happenings) ∧ Lawful (empty.run happenings) := by
  suffices kept : ∀ sharing, Orderly sharing ∧ Lawful sharing →
      Orderly (sharing.run happenings) ∧ Lawful (sharing.run happenings) from
    kept empty ⟨orderly_empty, lawful_empty⟩
  induction happenings with
  | nil =>
      intro sharing sound
      exact sound
  | cons happening rest ih =>
      intro sharing sound
      rcases step_change sound.2 happening with ⟨change, lawful⟩
      exact ih _ ⟨sound.1.change change, lawful⟩

end Sharing

end FrameEval.Session
