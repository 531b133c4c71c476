import FrameEval.Proofs.Evaluation.Order
import FrameEval.Proofs.Targets

/-!
# What a world keeps

A world keeps its heap when it is asked for something that it only reads, and also when it refuses
a change: each change is checked in full before anything is changed.  So the length that it
answered is still that of the array when an element is touched, as long as it was only read in
between.
-/

namespace FrameEval

open Dialogue Evaluation

variable {Body : Type}

theorem ArrayHandle.exists_ofSignature_eq_ok
    {id : Wire.ObjectId} {signature : String} {array : ArrayHandle}
    (read : ofSignature id signature = .ok array) (other : Wire.ObjectId) :
    ∃ same, ofSignature other signature = .ok same := by
  unfold ofSignature at read ⊢
  split at read
  · exact ⟨_, rfl⟩
  · cases read

/-- An array is refused before an id is used for it. -/
theorem Heap.allocateArray_of_error
    {heap : Heap Body} {signature : String} {length : Int32} {error : EvalError}
    (failed : (heap.allocateArray signature length).1 = .error error) :
    (heap.allocateArray signature length).2 = heap := by
  unfold allocateArray at failed ⊢
  cases read : ArrayHandle.ofSignature 0 signature with
  | error other => rfl
  | ok array =>
      obtain ⟨same, read'⟩ := ArrayHandle.exists_ofSignature_eq_ok read heap.allocate.1
      rw [read] at failed
      simp only [newArray, read'] at failed
      cases failed

namespace World

variable {world after : World} {operation : Operation} {record : Record}

theorem heap_respond_of_reading
    (world : World) (reads : operation.isMutating = false) :
    (world.respond operation).2.heap = world.heap := by
  cases operation <;> first
    | rfl
    | cases reads

theorem heap_writes_of_error
    {change : Heap Routine → Except EvalError (Heap Routine)} {halt : Halt}
    (failed : (world.writes change).1 = .error halt) :
    (world.writes change).2.heap = world.heap := by
  unfold writes at failed ⊢
  cases changed : change world.heap with
  | ok heap =>
      rw [changed] at failed
      cases failed
  | error other => rfl

theorem heap_respond_of_error
    {halt : Halt} (codeless : operation.runsCode = false)
    (failed : (world.respond operation).1 = .error halt) :
    (world.respond operation).2.heap = world.heap := by
  by_cases reads : operation.isMutating = false
  · exact heap_respond_of_reading world reads
  · cases operation with
    | setFrameValue | arraySet | setField => exact heap_writes_of_error failed
    | createString text => cases failed
    | newArray signature length =>
        have refused : (Heap.allocateArray signature length world.heap).1.mapError Halt.failed =
            .error halt := failed
        cases made : (Heap.allocateArray signature length world.heap).1 with
        | error error => exact Heap.allocateArray_of_error made
        | ok array =>
            rw [made] at refused
            cases refused
    | invoke | newInstance => cases codeless
    | _ => exact (reads rfl).elim

theorem heap_answer_of_reading
    (world : World) (reads : operation.isMutating = false) :
    (world.answer operation).2.heap = world.heap := by
  unfold answer
  split
  · exact heap_respond_of_reading _ reads
  · rfl

theorem heap_answer_of_error
    {halt : Halt} (codeless : operation.runsCode = false)
    (failed : (world.answer operation).1 = .error halt) :
    (world.answer operation).2.heap = world.heap := by
  unfold answer at failed ⊢
  split at failed
  · next connected =>
      rw [if_pos connected]
      exact heap_respond_of_error codeless failed
  · next lost =>
      rw [if_neg lost]

theorem heap_of_answered
    (answered : Answered World.handle world record after) (reading : Reading record) :
    after.heap = world.heap := by
  induction answered with
  | nil => rfl
  | @cons question world after record rest ih =>
      obtain ⟨⟨operation, rfl, reads⟩, later⟩ := List.forall_mem_cons.1 reading
      exact (ih later).trans (world.heap_answer_of_reading reads)

/-! ## Lengths -/

theorem toInt_ofNat_le (count : Nat) : (Int32.ofNat count).toInt ≤ count := by
  rw [Int32.toInt_ofNat', Int.bmod, show Int32.size = 4294967296 from rfl]
  split <;> omega

theorem elements_of_answer
    {array : ArrayHandle} {length : Int32}
    (answered : (world.answer (.arrayLength array)).1 = .ok length) :
    ∃ elements, world.heap.arrayElements array = .ok elements ∧
      length = Int32.ofNat elements.length := by
  unfold answer at answered
  split at answered
  · have counted : ((world.heap.arrayElements array).map
        (fun elements => Int32.ofNat elements.length)).mapError Halt.failed = .ok length := answered
    cases found : world.heap.arrayElements array with
    | error error =>
        rw [found] at counted
        cases counted
    | ok elements =>
        rw [found] at counted
        cases counted
        exact ⟨elements, rfl, rfl⟩
  · cases answered

/-- While a world is only read, an index that was compared with a length is one of an element. -/
theorem not_outside_of_measured
    {array : ArrayHandle} {index : Int32}
    (answered : Answered World.handle world record after) (reading : Reading record)
    (measured : Measured record array index) :
    ¬ after.heap.Outside array index := by
  obtain ⟨length, member, least, most⟩ := measured
  obtain ⟨before, rest, rfl⟩ := List.append_of_mem member
  obtain ⟨between, first, second⟩ := answered_append_iff.1 answered
  -- The heap in which the array was measured is the one in which its element is touched.
  have early : between.heap = world.heap :=
    heap_of_answered first fun exchange known => reading exchange (List.mem_append_left _ known)
  have late : after.heap = world.heap := heap_of_answered answered reading
  obtain ⟨told, -⟩ := answered_cons_iff.1 second
  obtain ⟨elements, found, rfl⟩ := elements_of_answer told
  rintro ⟨others, same, strays⟩
  rw [late, ← early, found] at same
  cases same
  have within := toInt_ofNat_le elements.length
  omega

/-- Only an index that is not one of an element is called invalid. -/
theorem strays_of_invalidIndex
    (failed : (World.handle (.operation operation) world).1 = .error (.failed Heap.invalidIndex)) :
    world.Strays operation := by
  exact (world.declines_answer operation _ failed _ rfl).2 rfl

theorem exists_strays_of_answered
    (record : Record)
    (answered : Answered World.handle world
      (record ++ [failure operation (.failed Heap.invalidIndex)]) after) :
    ∃ between, Answered World.handle world record between ∧ between.Strays operation := by
  obtain ⟨between, first, second⟩ := answered_append_iff.1 answered
  obtain ⟨failed, -⟩ := answered_cons_iff.1 second
  exact ⟨between, first, strays_of_invalidIndex failed⟩

/-- An operation that is in order is not refused because of its index. -/
theorem not_strays_of_orderly
    {binding : Binding} {runs : Prop}
    (answered : Answered World.handle world record after)
    (orderly : Orderly binding runs record operation) :
    ¬ after.Strays operation := by
  rintro ⟨array, index, touches, outside⟩
  cases orderly with
  | next reading measured permitted =>
      exact not_outside_of_measured answered reading (measured array index touches) outside
  | refetch => cases touches

theorem not_strays_of_apart (apart : operation.element? = none) : ¬ world.Strays operation := by
  rintro ⟨array, index, touches, -⟩
  rw [apart] at touches
  cases touches

end World

end FrameEval
