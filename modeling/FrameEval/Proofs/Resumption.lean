import FrameEval.Proofs.Link.Custody
import Mathlib.Data.List.Count
import Mathlib.Data.List.Destutter

/-!
# Undoing suspensions

The link undoes the suspension of every event set that it keeps back, by commands under fresh
ids whose replies concern nobody.  All threads are resumed at once, or each thread that the set
names.  A thread that consecutive events name is resumed once.  But one that comes back after an
event of another thread is resumed again, so the target may lose a suspension that somebody else
asked for; `resumption_undoes` says when this happens.
-/

namespace FrameEval.Link

open Wire

/-! ## Repetitions -/

section Repetitions

variable {Item : Type} [DecidableEq Item]

theorem eraseReps_eq_destutter (list : List Item) :
    list.eraseReps = list.destutter (· ≠ ·) := by
  have loop (last : Item) (rest kept : List Item) :
      List.eraseRepsBy.loop (· == ·) last rest kept =
        kept.reverse ++ rest.destutter' (· ≠ ·) last := by
    induction rest generalizing last kept with
    | nil => simp [List.eraseRepsBy.loop]
    | cons head tail ih =>
        by_cases same : last = head
        · subst same
          simp [List.eraseRepsBy.loop, ih]
        · have differs : (last == head) = false := beq_eq_false_iff_ne.2 same
          simp [List.eraseRepsBy.loop, differs, same, ih]
  cases list with
  | nil => rfl
  | cons head tail => exact loop head tail []

/-- What never repeats its last item and is found in a list is found where the list's
repetitions are left out. -/
theorem sublist_destutter'
    {items rest : List Item} {last : Item} (steady : items.IsChain (· ≠ ·))
    (found : items.Sublist (last :: rest)) :
    items.Sublist (rest.destutter' (· ≠ ·) last) := by
  induction rest generalizing items last with
  | nil => exact found
  | cons head tail ih =>
      by_cases same : last = head
      · subst same
        rw [List.destutter'_cons_neg _ (by simp)]
        refine ih steady ?_
        cases found with
        | cons _ later => exact later
        | cons_cons _ later =>
            rename_i more
            refine List.Sublist.cons_cons _ ?_
            cases later with
            | cons _ later => exact later
            | cons_cons _ later => simp at steady
      · rw [List.destutter'_cons_pos _ same]
        cases found with
        | cons _ later => exact (ih steady later).cons _
        | cons_cons _ later => exact (ih steady.tail later).cons_cons _

theorem sublist_eraseReps
    {items list : List Item} (steady : items.IsChain (· ≠ ·)) :
    items.Sublist list.eraseReps ↔ items.Sublist list := by
  rw [eraseReps_eq_destutter]
  refine ⟨fun found => found.trans (List.destutter_sublist _ _), fun found => ?_⟩
  cases list with
  | nil => exact found
  | cons head tail => exact sublist_destutter' steady found

theorem mem_eraseReps {list : List Item} {item : Item} :
    item ∈ list.eraseReps ↔ item ∈ list := by
  rw [← List.singleton_sublist, sublist_eraseReps (List.isChain_singleton item),
    List.singleton_sublist]

omit [DecidableEq Item] in
/-- Where an item comes twice without repetition, another one comes between. -/
theorem exists_other_between
    {list : List Item} {item : Item} (steady : list.IsChain (· ≠ ·))
    (twice : [item, item].Sublist list) :
    ∃ other, other ≠ item ∧ [item, other, item].Sublist list := by
  induction list with
  | nil => cases twice
  | cons head rest ih =>
      cases twice with
      | cons _ later =>
          obtain ⟨other, differs, between⟩ := ih steady.tail later
          exact ⟨other, differs, between.cons head⟩
      | cons_cons _ later =>
          cases rest with
          | nil => cases later
          | cons other tail =>
              have differs : item ≠ other := (List.isChain_cons_cons.1 steady).1
              refine ⟨other, differs.symm, (List.Sublist.cons_cons other ?_).cons_cons item⟩
              cases later with
              | cons _ again => exact again
              | cons_cons _ _ => exact (differs rfl).elim

/-- Without its repetitions an item occurs once, unless it comes back after another one. -/
theorem count_eraseReps_eq_one
    {list : List Item} {item : Item} (member : item ∈ list) :
    list.eraseReps.count item = 1 ↔
      ∀ other, [item, other, item].Sublist list → other = item := by
  have steady : list.eraseReps.IsChain (· ≠ ·) := by
    rw [eraseReps_eq_destutter]
    exact List.isChain_destutter _ _
  have occurs : 0 < list.eraseReps.count item := List.count_pos_iff.2 (mem_eraseReps.2 member)
  constructor
  · intro once other found
    by_contra differs
    have between : [item, other, item].IsChain (· ≠ ·) := by simp [differs, Ne.symm differs]
    have count := ((sublist_eraseReps between).2 found).count_le item
    have twice : 2 ≤ [item, other, item].count item := by simp [List.count_cons]
    omega
  · intro alone
    by_contra many
    have twice : [item, item].Sublist list.eraseReps := by
      change (List.replicate 2 item).Sublist list.eraseReps
      exact List.replicate_sublist_iff.2 (by omega)
    obtain ⟨other, differs, between⟩ := exists_other_between steady twice
    exact differs (alone other (between.trans ((sublist_eraseReps steady).1 (.refl _))))

end Repetitions

/-! ## Orders -/

theorem resumeThread_injective :
    Function.Injective fun thread => (Call.resumeThread thread).order := by
  intro first second same
  have data : Writer.uint64 first = Writer.uint64 second := congrArg Order.data same
  have numbers := congrArg ofBigEndian data
  simp only [Writer.uint64, ofBigEndian_bigEndian] at numbers
  rw [Nat.mod_eq_of_lt first.toNat_lt, Nat.mod_eq_of_lt second.toNat_lt] at numbers
  exact UInt64.toNat_inj.1 numbers

/-- Orders undo the suspension of a set: none if no thread was suspended, one for all threads,
or orders for the threads that the set names and for no others, one for each thread unless
it comes back after another one. -/
def Undoes (set : EventSet) (orders : List Order) : Prop :=
  match set.policy with
  | .none => orders = []
  | .all => orders = [Call.resumeAll.order]
  | .eventThread =>
      (∀ order ∈ orders, ∃ thread ∈ set.threads, order = (Call.resumeThread thread).order) ∧
        ∀ thread ∈ set.threads,
          0 < orders.count (Call.resumeThread thread).order ∧
            (orders.count (Call.resumeThread thread).order = 1 ↔
              ∀ other, [thread, other, thread].Sublist set.threads → other = thread)

theorem resumption_undoes (set : EventSet) : Undoes set (resumption set) := by
  rw [Undoes, resumption]
  cases set.policy with
  | none => rfl
  | all => rfl
  | eventThread =>
      dsimp only
      constructor
      · intro order member
        obtain ⟨thread, named, rfl⟩ := List.mem_map.1 member
        exact ⟨thread, mem_eraseReps.1 named, rfl⟩
      · intro thread named
        rw [List.count_map_of_injective _ _ resumeThread_injective]
        exact ⟨List.count_pos_iff.2 (mem_eraseReps.2 named), count_eraseReps_eq_one named⟩

/-! ## What a link does with a set that it keeps back -/

namespace Switchboard

variable {board after : Switchboard} {happening : Happening} {effects : List Effect}
  {set : EventSet}

/-- Only a reply makes the link forget the id of a command of its own. -/
theorem Change.resumes_of_unanswered
    (change : Change board happening after effects) {id : PacketId}
    (expected : id ∈ board.resumes)
    (unanswered : ¬ Entry.Answers ⟨happening, board.nextId, effects⟩ id) : id ∈ after.resumes := by
  cases change with
  | acknowledge isOpen isReply unexpected =>
      refine (List.mem_erase_of_ne ?_).2 expected
      rintro rfl
      exact unanswered ⟨_, _, rfl, isReply, rfl⟩
  | swallow isOpen reports arises =>
      dsimp only
      split
      · exact List.mem_append_left _ expected
      · exact expected
  | _ => exact expected

/-- The link expects a reply that concerns nobody: when it arrives its id is forgotten, and
nothing else comes of it. -/
def Expects (board : Switchboard) (id : PacketId) : Prop :=
  id ∈ board.resumes ∧
    ∀ packet writable, packet.isReply = true → packet.id = id → board.isOpen = true →
      board.step (.arrive packet writable) =
        ({ board with resumes := board.resumes.erase id }, [])

theorem expects_of_not_pending
    {id : PacketId} (kept : id ∈ board.resumes) (foreign : id ∉ board.pending) :
    board.Expects id := by
  refine ⟨kept, ?_⟩
  rintro packet writable isReply rfl isOpen
  rw [step, if_pos isOpen, if_pos isReply, reply, if_neg foreign]

end Switchboard

/-- What the link does about a suspension by a set that it keeps back. -/
structure Undone
    (capacity : Nat) (before : History) (entry : Entry) (after : History) (set : EventSet)
    (orders : List Order) (count : Nat) : Prop where
  undoes : Undoes set orders
  /-- The orders are written one after another until the transport fails. -/
  written : entry.effects =
    .swallow set :: ((Switchboard.number entry.counter orders).take count).map .write
  /-- Their ids are fresh. -/
  fresh : (drawn before ++ (Switchboard.number entry.counter orders).map Command.id).Nodup
  /-- If all are written, replies to them are expected until they arrive. -/
  expected : orders.length ≤ count →
    ∀ id ∈ (Switchboard.number entry.counter orders).map Command.id,
      ∀ between later board, after = between ++ later →
        (∀ other ∈ between, ¬ other.Answers id) →
        Reached capacity (before ++ entry :: between) board → board.Expects id

section Few

variable {capacity : Nat} {before between after : History} {entry : Entry}
  {board : Switchboard} {set : EventSet}

theorem Reached.kept_unanswered
    (reached : Reached capacity (before ++ entry :: between) board)
    (swallowed : .swallow set ∈ entry.effects)
    {packet : Packet} {count : Nat} (arrives : entry.happening = .arrive packet count)
    (all : (resumption set).length ≤ count) {id : PacketId}
    (own : id ∈ (Switchboard.number entry.counter (resumption set)).map Command.id)
    (unanswered : ∀ other ∈ between, ¬ other.Answers id) : id ∈ board.resumes := by
  -- By induction on what happened since: the set recorded the id, and no entry took it away.
  induction between using List.reverseRecOn generalizing board with
  | nil =>
      obtain ⟨middle, -, made, rfl⟩ := reached.last
      rw [made] at swallowed own
      obtain ⟨_, _, happened, -, -, -, kept⟩ := (middle.step_change _).of_swallow swallowed
      rw [arrives] at happened
      cases happened
      rw [kept all]
      exact List.mem_append_right _ own
  | append_singleton rest last ih =>
      rw [← List.cons_append, ← List.append_assoc] at reached
      obtain ⟨middle, earlier, made, rfl⟩ := reached.last
      have silent : ¬ (middle.entry last.happening).Answers id := by
        rw [← made]
        exact unanswered last (by simp)
      refine (middle.step_change _).resumes_of_unanswered ?_ silent
      exact ih earlier fun other member => unanswered other (List.mem_append_left _ member)

/-- The ids of the link's own commands are drawn for them. -/
theorem Reached.own_fresh
    (reached : Reached capacity (before ++ entry :: after) board)
    (few : (drawn (before ++ entry :: after)).length < UInt32.size) :
    (drawn before ++ entry.ownCommands.map Command.id).Nodup := by
  refine (reached.drawn_nodup few).sublist ?_
  rw [drawn_append]
  refine (List.Sublist.refl (drawn before)).append ?_
  rw [drawn, List.flatMap_cons, Entry.drawn]
  exact (List.sublist_append_right _ _).trans (List.sublist_append_left _ _)

end Few

/-- Every history of a link undoes the suspensions of the sets that it keeps back, whatever the
interleaving. -/
theorem suspensions_are_undone
    (capacity : Nat) (happenings : List Happening)
    (few : (drawn ((Switchboard.fresh capacity).history happenings)).length < UInt32.size) :
    ∀ before entry after,
      (Switchboard.fresh capacity).history happenings = before ++ entry :: after →
      ∀ set, .swallow set ∈ entry.effects →
        ∃ packet count orders, entry.happening = .arrive packet count ∧
          Undone capacity before entry after set orders count := by
  have reached := reached_run capacity happenings
  generalize (Switchboard.fresh capacity).history happenings = history at few reached ⊢
  rintro before entry after rfl set swallowed
  obtain ⟨middle, earlier, made⟩ := reached.split
  have effects : entry.effects = (middle.step entry.happening).2 := congrArg Entry.effects made
  have counter : entry.counter = middle.nextId := congrArg Entry.counter made
  rw [effects] at swallowed
  obtain ⟨packet, count, arrives, -, -, written, -⟩ :=
    (middle.step_change _).of_swallow swallowed
  refine ⟨packet, count, resumption set, arrives, ?_⟩
  refine
    { undoes := resumption_undoes set
      written := ?written
      fresh := ?fresh
      expected := ?expected }
  case written => rw [effects, written, counter, Switchboard.undoing]
  case fresh =>
    have own : entry.ownCommands = Switchboard.number entry.counter (resumption set) := by
      rw [counter, made, Switchboard.entry, written]
      exact Switchboard.ownCommands_swallow middle set _ _
    rw [← own]
    exact reached.own_fresh few
  case expected =>
    rintro all id own between later now rfl unanswered reaches
    rw [← List.cons_append, ← List.append_assoc] at few
    have kept := reaches.kept_unanswered (effects ▸ swallowed) arrives all own unanswered
    exact Switchboard.expects_of_not_pending kept fun pending =>
      reaches.pending_disjoint_resumes (few_of_append few) pending kept

/-- The packet by which the target reports a set. -/
def reportOf (set : EventSet) : Packet where
  isReply := false
  id := 0
  bytes := Command.encode ⟨0, CommandSet.event, Switchboard.eventCommand, Writer.eventSet set⟩

/-- Breakpoints on two threads, and then again on the first one. -/
def returningSet : EventSet where
  policy := .eventThread
  events := [7, 8, 7].map fun thread => ⟨2, 5, .breakpoint thread ⟨1, 16, 32, 3⟩⟩

/-- Invocations run on two threads when a set arrives in which one of them returns. -/
def returning : List Happening :=
  [.enter 7, .enter 8, .arrive (reportOf returningSet) 3]

set_option maxRecDepth 2000 in
theorem returning_suspension_is_undone :
    (drawn ((Switchboard.fresh 1).history returning)).length < UInt32.size ∧
      ∃ before entry, (Switchboard.fresh 1).history returning = before ++ entry :: [] ∧
        .swallow returningSet ∈ entry.effects ∧
        ∃ packet count orders, entry.happening = .arrive packet count ∧
          Undone 1 before entry [] returningSet orders count := by
  have few : (drawn ((Switchboard.fresh 1).history returning)).length < UInt32.size := by
    decide
  let board := ((Switchboard.fresh 1).run [.enter 7, .enter 8]).1
  let before := (Switchboard.fresh 1).history [.enter 7, .enter 8]
  have swallowed : .swallow returningSet ∈
      (board.entry (.arrive (reportOf returningSet) 3)).effects :=
    List.mem_cons_self
  exact ⟨few, before, board.entry (.arrive (reportOf returningSet) 3), rfl, swallowed,
    suspensions_are_undone 1 returning few before _ [] rfl returningSet swallowed⟩

/-- The effect is a command to resume a thread. -/
def Effect.resumes (thread : ThreadId) : Effect → Bool
  | .write command => command = (Call.resumeThread thread).order.withId command.id
  | _ => false

set_option maxRecDepth 2000 in
/-- A thread that comes back after another one is resumed twice. -/
theorem returning_thread_is_resumed_twice :
    ((Switchboard.fresh 1).run returning).2.countP (Effect.resumes 7) = 2 ∧
      ¬ ∀ set, .swallow set ∈ ((Switchboard.fresh 1).run returning).2 →
        set.policy = .eventThread → ∀ thread ∈ set.threads,
          ((Switchboard.fresh 1).run returning).2.countP (Effect.resumes thread) = 1 := by
  have twice : ((Switchboard.fresh 1).run returning).2.countP (Effect.resumes 7) = 2 := by
    decide
  refine ⟨twice, fun once => ?_⟩
  have one := once returningSet List.mem_cons_self rfl 7 List.mem_cons_self
  omega

end FrameEval.Link
