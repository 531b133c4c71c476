import FrameEval.Proofs.Session.Sharing

/-!
# Visits to one thread take turns

Whatever visits arrive, go on, fail, end and are dropped, in any order: at most one visit is
inside a thread, so that the operations of two visits to one thread never mix, a visit that is
over has left the queue, and whoever waits waits for an unfinished visit to the same thread.
What happens on other threads makes no difference at all.
-/

namespace FrameEval.Session

open Wire

namespace Sharing

/-! ## Threads do not touch one another -/

/-- Two states agree in everything that belongs to a thread. -/
structure SameOn (thread : ThreadId) (one other : Sharing) : Prop where
  queue : one.threads.queue thread = other.threads.queue thread
  visits : ∀ visitor : Visitor, visitor.thread = thread →
    one.visits.find? visitor = other.visits.find? visitor
  issued : (one.issued.filter fun issue => issue.visitor.thread = thread) =
    other.issued.filter fun issue => issue.visitor.thread = thread

section

variable {thread : ThreadId} {one other : Sharing}

theorem SameOn.refl (thread : ThreadId) (sharing : Sharing) : SameOn thread sharing sharing :=
  ⟨rfl, fun _ _ => rfl, rfl⟩

theorem SameOn.trans
    {third : Sharing} (first : SameOn thread one other) (second : SameOn thread other third) :
    SameOn thread one third where
  queue := first.queue.trans second.queue
  visits := fun visitor on => (first.visits visitor on).trans (second.visits visitor on)
  issued := first.issued.trans second.issued

theorem SameOn.set
    (same : SameOn thread one other) (visitor : Visitor) (stage : Stage) :
    SameOn thread (one.set visitor stage) (other.set visitor stage) where
  queue := same.queue
  issued := same.issued
  visits := by
    intro known on
    by_cases equal : known = visitor
    · simp [Sharing.set, equal]
    · simp [Sharing.set, equal, same.visits known on]

theorem SameOn.queueUp
    (same : SameOn thread one other) (wanted : ThreadId) (visitor : Visitor) :
    SameOn thread (one.queueUp wanted visitor) (other.queueUp wanted visitor) where
  visits := same.visits
  issued := same.issued
  queue := by
    by_cases equal : thread = wanted
    · simp [Sharing.queueUp, ← equal, same.queue]
    · simp [Sharing.queueUp, equal, same.queue]

theorem SameOn.giveUp
    (same : SameOn thread one other) (wanted : ThreadId) (visitor : Visitor) :
    SameOn thread (one.giveUp wanted visitor) (other.giveUp wanted visitor) where
  visits := same.visits
  issued := same.issued
  queue := by
    by_cases equal : thread = wanted
    · simp [Sharing.giveUp, ← equal, same.queue]
    · simp [Sharing.giveUp, equal, same.queue]

theorem SameOn.note
    (same : SameOn thread one other) (visitor : Visitor) (operations : List Operation) :
    SameOn thread (one.note visitor operations) (other.note visitor operations) where
  queue := same.queue
  visits := same.visits
  issued := by simp [Sharing.note, same.issued]

/-- What happens on a thread depends only on what belongs to the thread. -/
theorem SameOn.step
    (same : SameOn thread one other) (lawful : Lawful one) {happening : Happening}
    (on : happening.visitor.thread = thread) :
    SameOn thread (one.step happening) (other.step happening) := by
  have found := same.visits happening.visitor on
  cases happening with
  | arrive visitor depth use =>
      dsimp only [Sharing.step, Sharing.arrive, Happening.visitor] at found ⊢
      rw [← found]
      split
      · exact same.set _ _
      · exact same
  | proceed visitor answers =>
      dsimp only [Sharing.step, Sharing.proceed, Happening.visitor] at found on ⊢
      rw [← found]
      split
      · next wanted onward known =>
          cases lawful visitor _ known with
          | inside holds => cases holds
          | waits holds =>
              rw [ThreadTable.holder?, ThreadTable.holder?, on, ← same.queue]
              split
              · exact same.set _ _
              · split
                · exact same
                · exact same.queueUp _ _
      · exact (same.set _ _).note _ _
      · exact (same.set _ _).giveUp _ _
      · exact same
  | abandon visitor =>
      dsimp only [Sharing.step, Sharing.abandon, Happening.visitor] at found ⊢
      rw [← found]
      split
      · exact (same.set _ _).giveUp _ _
      · exact same

/-! What a visitor of another thread does leaves a thread as it is. -/

section

variable {visitor : Visitor} (differs : visitor.thread ≠ thread)

include differs

theorem sameOn_set (sharing : Sharing) (stage : Stage) :
    SameOn thread sharing (sharing.set visitor stage) where
  queue := rfl
  issued := rfl
  visits := by
    intro known on
    have elsewhere : known ≠ visitor := by
      rintro rfl
      exact differs on
    simp [Sharing.set, elsewhere]

theorem sameOn_queueUp (sharing : Sharing) :
    SameOn thread sharing (sharing.queueUp visitor.thread visitor) where
  queue := (ThreadTable.queue_acquire_ne _ _ differs.symm).symm
  visits := fun _ _ => rfl
  issued := rfl

theorem sameOn_giveUp (sharing : Sharing) :
    SameOn thread sharing (sharing.giveUp visitor.thread visitor) where
  queue := (ThreadTable.queue_release_ne _ _ differs.symm).symm
  visits := fun _ _ => rfl
  issued := rfl

theorem sameOn_note (sharing : Sharing) (operations : List Operation) :
    SameOn thread sharing (sharing.note visitor operations) where
  queue := rfl
  visits := fun _ _ => rfl
  issued := by simp [Sharing.note, differs]

theorem Change.sameOn (change : Change one visitor other) : SameOn thread one other := by
  cases change with
  | idle => exact .refl thread one
  | arrive unknown phase => exact sameOn_set differs one _
  | queue waits absent => exact sameOn_queueUp differs one
  | enter waits first phase => exact sameOn_set differs one _
  | issue inside phase operations =>
      exact (sameOn_set differs one _).trans (sameOn_note differs _ operations)
  | leave phase => exact (sameOn_set differs one _).trans (sameOn_giveUp differs _)

end

end

/-- Whether a happening belongs to a visit to a thread. -/
def Happening.isOn (thread : ThreadId) (happening : Happening) : Bool :=
  happening.visitor.thread = thread

/-- A thread is in the same state as if nothing had happened on any other. -/
theorem sameOn_run
    (thread : ThreadId) (happenings : List Happening) :
    SameOn thread (empty.run (happenings.filter (·.isOn thread))) (empty.run happenings) := by
  suffices kept : ∀ one other, Lawful one → Lawful other → SameOn thread one other →
      SameOn thread (one.run (happenings.filter (·.isOn thread))) (other.run happenings) from
    kept empty empty lawful_empty lawful_empty (.refl thread empty)
  induction happenings with
  | nil =>
      intro one other oneLawful otherLawful same
      exact same
  | cons happening rest ih =>
      intro one other oneLawful otherLawful same
      have otherChange := step_change otherLawful happening
      by_cases on : happening.visitor.thread = thread
      · rw [List.filter_cons_of_pos (by simp [Happening.isOn, on])]
        exact ih _ _ (step_change oneLawful happening).2 otherChange.2 (same.step oneLawful on)
      · rw [List.filter_cons_of_neg (by simp [Happening.isOn, on])]
        exact ih _ _ oneLawful otherChange.2 (same.trans (otherChange.1.sameOn on))

/-! ## Turns -/

/-- A visit has begun and is not over. -/
def IsUnfinished (sharing : Sharing) (visitor : Visitor) : Prop :=
  sharing.phase? visitor = some .waiting ∨ sharing.phase? visitor = some .inside

/-- A visit waits behind another one. -/
def IsBlocked (sharing : Sharing) (visitor : Visitor) : Prop :=
  sharing.phase? visitor = some .waiting ∧ visitor ∈ sharing.threads.queue visitor.thread ∧
    sharing.threads.holder? visitor.thread ≠ some visitor

/-- When a visit is told to go on, its request is answered. -/
def GoesOn (sharing : Sharing) (visitor : Visitor) : Prop :=
  ∀ answers, ∃ request next answer,
    sharing.visits.find? visitor = some (.present (.ask request next)) ∧
      (sharing.step (.proceed visitor answers)).visits.find? visitor =
        some (.present (next answer))

/-- How visits share their threads. -/
structure TakesTurns (sharing : Sharing) : Prop where
  /-- One visit at most is inside a thread. -/
  alone : ∀ one other : Visitor, sharing.phase? one = some .inside →
    sharing.phase? other = some .inside → one.thread = other.thread → one = other
  /-- A visit that has issued an operation is inside until it is over. -/
  entered : ∀ issue ∈ sharing.issued,
    sharing.phase? issue.visitor = some .inside ∨ sharing.phase? issue.visitor = some .finished
  /-- Between two operations of one visit no other visit issues one on the same thread. -/
  apart : ∀ first second third, [first, second, third].Sublist sharing.issued →
    third.visitor = first.visitor → second.visitor.thread = first.visitor.thread →
      second.visitor = first.visitor
  /-- Whoever holds a thread or waits for it visits that thread and is not over: the visit has
  neither failed to bind, nor ended, nor been dropped. -/
  left : ∀ thread, ∀ visitor ∈ sharing.threads.queue thread,
    visitor.thread = thread ∧ sharing.IsUnfinished visitor
  /-- A thread to which there is no unfinished visit is free. -/
  free : ∀ thread, (∀ visitor, sharing.IsUnfinished visitor → visitor.thread ≠ thread) →
    sharing.threads.isHeld thread = false
  /-- A visit that is dropped is over. -/
  dropped : ∀ visitor, sharing.IsUnfinished visitor →
    (sharing.step (.abandon visitor)).phase? visitor = some .finished
  /-- A visit that is inside goes on whatever the others do, and so does the one whose turn it
  is to enter. -/
  goesOn : ∀ visitor, sharing.phase? visitor = some .inside ∨
      sharing.phase? visitor = some .waiting ∧
        sharing.threads.holder? visitor.thread = some visitor →
    sharing.GoesOn visitor
  /-- A visit waits only for one to the same thread, and that one goes on. -/
  waits : ∀ visitor, sharing.IsBlocked visitor →
    ∃ holder, holder ≠ visitor ∧ holder.thread = visitor.thread ∧
      sharing.threads.holder? visitor.thread = some holder ∧ sharing.GoesOn holder

section

variable {sharing : Sharing} {visitor : Visitor}

theorem exists_ask
    (unfinished : sharing.IsUnfinished visitor) :
    ∃ request next, sharing.visits.find? visitor = some (.present (.ask request next)) := by
  have asks : ∀ stage : Stage, stage.phase = .waiting ∨ stage.phase = .inside →
      ∃ request next, stage = .present (.ask request next) := by
    intro stage phase
    cases stage with
    | abandoned => simp [Stage.phase] at phase
    | present rest =>
        cases rest with
        | done result => simp [Stage.phase] at phase
        | ask request next => exact ⟨request, next, rfl⟩
  rw [IsUnfinished, phase?, Option.map_eq_some_iff, Option.map_eq_some_iff] at unfinished
  rcases unfinished with ⟨stage, found, phase⟩ | ⟨stage, found, phase⟩
  · rcases asks stage (.inl phase) with ⟨request, next, rfl⟩
    exact ⟨request, next, found⟩
  · rcases asks stage (.inr phase) with ⟨request, next, rfl⟩
    exact ⟨request, next, found⟩

theorem phase?_abandon (unfinished : sharing.IsUnfinished visitor) :
    (sharing.step (.abandon visitor)).phase? visitor = some .finished := by
  rcases exists_ask unfinished with ⟨request, next, found⟩
  rw [step, Sharing.abandon, found]
  simp [Stage.phase]

theorem Lawful.goesOn
    (lawful : Lawful sharing)
    (turn : sharing.phase? visitor = some .inside ∨
      sharing.phase? visitor = some .waiting ∧
        sharing.threads.holder? visitor.thread = some visitor) :
    sharing.GoesOn visitor := by
  intro answers
  have unfinished : sharing.IsUnfinished visitor := turn.symm.imp_left And.left
  rcases exists_ask unfinished with ⟨request, next, found⟩
  rw [step, Sharing.proceed, found]
  cases request with
  | inquiry inquiry => exact ⟨_, next, answers inquiry, rfl, Table.find?_insert_self _ _ _⟩
  | release thread => exact ⟨_, next, (), rfl, Table.find?_insert_self _ _ _⟩
  | acquire thread =>
      cases lawful visitor _ found with
      | inside holds => cases holds
      | @waits next holds =>
          rcases turn with inside | ⟨-, first⟩
          · simp [phase?, found, Stage.phase] at inside
          · dsimp only
            rw [if_pos first]
            exact ⟨.acquire visitor.thread, next, (), rfl, Table.find?_insert_self _ _ _⟩

/-- A blocked visit has one in front of it whose turn it is. -/
theorem Orderly.holder_of_blocked
    (orderly : Orderly sharing) (blocked : sharing.IsBlocked visitor) :
    ∃ holder, holder ≠ visitor ∧ holder.thread = visitor.thread ∧
      sharing.threads.holder? visitor.thread = some holder ∧ sharing.IsUnfinished holder := by
  rcases blocked with ⟨-, member, behind⟩
  cases first : sharing.threads.holder? visitor.thread with
  | none =>
      rw [ThreadTable.holder?, List.head?_eq_none_iff] at first
      simp [first] at member
  | some holder =>
      rcases orderly.queued _ holder (List.mem_of_head? first) with ⟨same, unfinished⟩
      refine ⟨holder, ?_, same, rfl, unfinished⟩
      rintro rfl
      exact behind first

theorem Orderly.isHeld_eq_false
    (orderly : Orderly sharing) {thread : ThreadId}
    (nobody : ∀ visitor, sharing.IsUnfinished visitor → visitor.thread ≠ thread) :
    sharing.threads.isHeld thread = false := by
  rw [ThreadTable.isHeld, Option.isSome_eq_false_iff, Option.isNone_iff_eq_none,
    ThreadTable.holder?, List.head?_eq_none_iff, List.eq_nil_iff_forall_not_mem]
  intro visitor member
  rcases orderly.queued thread visitor member with ⟨same, unfinished⟩
  exact nobody visitor unfinished same

end

/-- However visits arrive, go on and are dropped, they take turns on each thread, and what
happens on a thread is what would happen there without the visits to other threads.  A visit
whose binding fails has given its thread up by then, and one that was bound has not. -/
theorem visits_take_turns
    (happenings : List Happening) :
    TakesTurns (empty.run happenings) ∧
      (∀ thread, SameOn thread (empty.run (happenings.filter (·.isOn thread)))
        (empty.run happenings)) ∧
      ∀ thread depth asked result, (bind thread depth).Ends asked result →
        (⟨.release thread, ()⟩ ∈ asked ↔ ∃ halt, result = .error halt) := by
  rcases orderly_run happenings with ⟨orderly, lawful⟩
  refine ⟨?_, fun thread => sameOn_run thread happenings,
    fun _ _ _ _ ends => released_iff_failed ends⟩
  generalize empty.run happenings = sharing at orderly lawful ⊢
  refine
    { alone := fun one other inside insideToo same =>
        orderly.eq_of_inside inside insideToo same
      entered := orderly.entered
      apart := orderly.apart
      left := orderly.queued
      free := fun thread nobody => orderly.isHeld_eq_false nobody
      dropped := fun visitor unfinished => phase?_abandon unfinished
      goesOn := fun visitor turn => lawful.goesOn turn
      waits := ?waits }
  case waits =>
    intro visitor blocked
    rcases orderly.holder_of_blocked blocked with ⟨holder, differs, same, first, unfinished⟩
    refine ⟨holder, differs, same, first, lawful.goesOn ?_⟩
    rw [← same] at first
    rcases unfinished with waiting | inside
    · exact .inr ⟨waiting, first⟩
    · exact .inl inside

/-- The target refuses everything. -/
def refusing : (inquiry : Inquiry) → inquiry.Answer
  | .operation _ => .error (.failed .disconnected)
  | .cancelled => false

def firstVisitor : Visitor := ⟨7, 0⟩

def secondVisitor : Visitor := ⟨7, 1⟩

/-- Two visitors come to one thread, and the first of them enters. -/
def contention : List Happening :=
  [.arrive firstVisitor 0 fun _ => .done (.ok .null),
    .arrive secondVisitor 0 fun _ => .done (.ok .null),
    .proceed firstVisitor refusing, .proceed secondVisitor refusing,
    .proceed firstVisitor refusing]

/-- The requests of a binding whose frame the target refuses. -/
def refusedBinding : Dialogue.Record Request.Answer :=
  [⟨.acquire 7, ()⟩,
    ⟨.inquiry (.operation (.frame 7 0)), .error (.failed .disconnected)⟩, ⟨.release 7, ()⟩]

theorem second_visitor_waits :
    (empty.run contention).IsBlocked secondVisitor ∧
      (∃ holder, holder ≠ secondVisitor ∧ holder.thread = secondVisitor.thread ∧
        (empty.run contention).threads.holder? secondVisitor.thread = some holder ∧
        (empty.run contention).GoesOn holder) ∧
      (bind 7 0).Ends refusedBinding (.error (.failed .disconnected)) ∧
      ∃ halt, (.error (.failed .disconnected) : Except Halt Context) = .error halt := by
  have blocked : (empty.run contention).IsBlocked secondVisitor := by
    refine ⟨rfl, ?_, ?_⟩
    · decide
    · decide
  have ends : (bind 7 0).Ends refusedBinding (.error (.failed .disconnected)) :=
    .ask (.ask (.ask .done))
  rcases visits_take_turns contention with ⟨turns, -, binding⟩
  refine ⟨blocked, turns.waits secondVisitor blocked, ends, ?_⟩
  exact (binding 7 0 refusedBinding _ ends).1 (by simp [refusedBinding])

end Sharing

end FrameEval.Session
