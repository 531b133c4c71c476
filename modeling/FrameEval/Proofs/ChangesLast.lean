import FrameEval.Proofs.World.Keeping

/-!
# Instructions check first and change last

Whatever an instruction does to the target it does in one operation, after everything that it
reads.  A failure that comes neither from this operation nor from the fetch of the frame after it
is therefore one that left the target as it was; and a target in memory is left as it was by every
failure of an instruction that does not run code.
-/

namespace FrameEval.Evaluation

open Dialogue Wire

/-- One operation changes the target at most.  Those before it only read, and only if it runs code
another one follows, which fetches the bound frame. -/
def ChangesOnce (binding : Binding) (operations : List Operation) : Prop :=
  ∀ before change after, operations = before ++ change :: after → change.isMutating = true →
    (∀ operation ∈ before, operation.isMutating = false) ∧
      (after = [] ∨
        change.runsCode = true ∧ after = [.frame binding.thread binding.depth])

/-- The ways in which an instruction fails after an operation that may have changed the target. -/
inductive LateFailure (binding : Binding) : Record → Halt → Prop where
  /-- The change itself failed, or its answer was not understood. -/
  | refused
      {before : Record} {change : Operation} {halt : Halt}
      (reading : Reading before) (changes : change.isMutating = true) :
      LateFailure binding (before ++ [failure change halt]) halt
  /-- The frame could not be fetched again. -/
  | unfetched
      {before : Record} {change : Operation} {outcome : change.Answer} {halt : Halt}
      (reading : Reading before) (runsCode : change.runsCode = true) :
      LateFailure binding
        (before ++ [success change outcome, failure (.frame binding.thread binding.depth) halt])
        halt
  /-- Another method runs where the bound one did. -/
  | stale
      {before : Record} {change : Operation} {outcome : change.Answer} {info : FrameInfo}
      {detail : String}
      (reading : Reading before) (runsCode : change.runsCode = true)
      (gone : info.location.sameMethod binding.location = false) :
      LateFailure binding
        (before ++ [success change outcome, success (.frame binding.thread binding.depth) info])
        (.failed (.staleFrame detail))

/-- How an instruction treats its target. -/
structure ChangesLast (setting : Setting) (instruction : Instruction) (activation : Activation) :
    Prop where
  order : ∀ record asked, ((step setting instruction).start activation).Asks record asked →
    ∃ operations : List Operation,
      record.map Sigma.fst ++ [asked] = operations.map Inquiry.operation ∧
        ChangesOnce setting.binding operations
  failure : ∀ record halt after,
    ((step setting instruction).start activation).Ends record (.error halt, after) →
      Reading record ∨ LateFailure setting.binding record halt
  /-- A failure leaves the heap of a world as it was. -/
  kept : instruction.runsCode = false → ∀ (world left : World) halt after,
    ((step setting instruction).start activation).run World.handle world =
      ((.error halt, after), left) → left.heap = world.heap

section Order

variable {binding : Binding} {runs : Prop} {record : Record} {operation : Operation}

theorem Reading.exists_operations
    (reading : Reading record) :
    ∃ operations : List Operation, record.map Sigma.fst = operations.map Inquiry.operation ∧
      ∀ operation ∈ operations, operation.isMutating = false := by
  induction record with
  | nil => exact ⟨[], rfl, fun _ none => (List.not_mem_nil none).elim⟩
  | cons exchange record ih =>
      obtain ⟨⟨operation, asked, reads⟩, later⟩ := List.forall_mem_cons.1 reading
      obtain ⟨operations, same, still⟩ := ih later
      refine ⟨operation :: operations, ?_, List.forall_mem_cons.2 ⟨reads, still⟩⟩
      rw [List.map_cons, List.map_cons, asked, same]

/-- In a row of readings with another operation at its end only this one can be a change. -/
theorem change_unique
    {operations before after : List Operation} {last change : Operation}
    (reads : ∀ operation ∈ operations, operation.isMutating = false)
    (split : operations ++ [last] = before ++ change :: after)
    (changes : change.isMutating = true) :
    operations = before ∧ last = change ∧ after = [] := by
  rcases List.eq_nil_or_concat after with rfl | ⟨more, final, rfl⟩
  · obtain ⟨same, ends⟩ := List.append_inj' split rfl
    exact ⟨same, List.singleton_inj.1 ends, rfl⟩
  · -- With something after it the change would be among the readings.
    rw [List.concat_eq_append, ← List.cons_append, ← List.append_assoc] at split
    obtain ⟨same, -⟩ := List.append_inj' split rfl
    have still := reads change (by rw [same]; simp)
    rw [changes] at still
    cases still

theorem Orderly.changesOnce
    (orderly : Orderly binding runs record operation) :
    ∃ operations : List Operation,
      record.map Sigma.fst ++ [.operation operation] = operations.map Inquiry.operation ∧
        ChangesOnce binding operations := by
  cases orderly with
  | next reading measured permitted =>
      obtain ⟨operations, same, reads⟩ := reading.exists_operations
      refine ⟨operations ++ [operation], by rw [same, List.map_append]; rfl, ?_⟩
      intro before change after split changes
      obtain ⟨rfl, rfl, rfl⟩ := change_unique reads split changes
      exact ⟨reads, .inl rfl⟩
  | @refetch earlier code outcome reading runsCode permitted =>
      obtain ⟨operations, same, reads⟩ := reading.exists_operations
      refine ⟨operations ++ [code] ++ [.frame binding.thread binding.depth], ?_, ?_⟩
      · rw [List.map_append, same, List.map_append, List.map_append]
        rfl
      intro before change after split changes
      rcases List.eq_nil_or_concat after with rfl | ⟨more, final, rfl⟩
      · obtain ⟨-, ends⟩ := List.append_inj' split rfl
        obtain rfl := List.singleton_inj.1 ends
        cases changes
      · rw [List.concat_eq_append, ← List.cons_append, ← List.append_assoc] at split
        obtain ⟨inner, ends⟩ := List.append_inj' split rfl
        obtain rfl := List.singleton_inj.1 ends
        obtain ⟨rfl, rfl, rfl⟩ := change_unique reads inner changes
        exact ⟨reads, .inr ⟨runsCode, rfl⟩⟩

theorem Stopped.failure
    {halt : Halt} (stopped : Stopped binding runs record halt) :
    Reading record ∨ LateFailure binding record halt := by
  cases stopped with
  | own reading own => exact .inl reading
  | exhausted reading | aborted reading => exact .inl reading
  | @refused record operation halt orderly =>
      cases orderly with
      | next reading measured permitted =>
          cases changes : operation.isMutating with
          | false => exact .inl (reading.append (only_singleton changes _))
          | true => exact .inr (.refused reading changes)
      | refetch reading runsCode permitted =>
          rw [List.append_assoc]
          exact .inr (.unfetched reading runsCode)
  | stale reading runsCode permitted gone => exact .inr (.stale reading runsCode gone)

/-- Where no code is run, a world keeps its heap when an instruction fails. -/
theorem Stopped.heap_eq
    {halt : Halt} {world left : World} (stopped : Stopped binding False record halt)
    (answered : Answered World.handle world record left) :
    left.heap = world.heap := by
  cases stopped with
  | own reading own => exact World.heap_of_answered answered reading
  | exhausted reading | aborted reading => exact World.heap_of_answered answered reading
  | @refused record operation halt orderly =>
      obtain ⟨between, first, second⟩ := answered_append_iff.1 answered
      obtain ⟨refused, last⟩ := answered_cons_iff.1 second
      cases last
      cases orderly with
      | next reading measured permitted =>
          have codeless : operation.runsCode = false := Bool.eq_false_iff.2 permitted
          exact (World.heap_answer_of_error codeless refused).trans
            (World.heap_of_answered first reading)
      | refetch reading runsCode permitted => exact permitted.elim
  | stale reading runsCode permitted gone => exact permitted.elim

end Order

variable (setting : Setting) (instruction : Instruction) (activation : Activation)

/-- Every instruction checks first and changes its target last, whatever it finds on the stack and
whatever the target answers. -/
theorem instructions_change_last : ChangesLast setting instruction activation := by
  refine { order := ?order, failure := ?failure, kept := ?kept }
  case order =>
    intro record asked asks
    obtain ⟨operation, rfl, orderly⟩ := orderly_of_asks asks
    exact orderly.changesOnce
  case failure =>
    intro record halt after ends
    exact (stopped_of_ends ends).failure
  case kept =>
    intro codeless world left halt after ran
    have ended := ends_transcript World.handle ((step setting instruction).start activation) world
    have answered := answered_transcript World.handle
      ((step setting instruction).start activation) world
    rw [ran] at ended answered
    have stopped := stopped_of_ends ended
    simp only [codeless, Bool.false_eq_true] at stopped
    exact stopped.heap_eq answered

end FrameEval.Evaluation
