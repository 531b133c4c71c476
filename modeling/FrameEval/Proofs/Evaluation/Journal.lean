import FrameEval.Proofs.Evaluation.Vocabulary

/-!
# Journals of runs

A journal lists the turns that a run has completed, the first one first, each with what the
evaluation carried when it began.  Whatever a run asks, it asks in a turn that follows some
journal, so what is known of every journal is known of every run.  A property that depends on
what a run did before is proved by induction on the journal, whose last turn is the newest.
-/

namespace FrameEval

namespace Evaluation

open Dialogue Wire

/-- A turn that a run has completed. -/
structure Moment where
  counter : Nat
  instruction : Instruction
  /-- What the evaluation carried when the turn began. -/
  before : Activation

/-! ## Completed turns -/

section Turns

variable {setting : Setting} {length counter next : Nat} {watched : Bool}
  {instruction : Instruction} {activation after : Activation} {record : Record}

/-- What a completed turn is made of. -/
structure Completed (setting : Setting) (length : Nat) (watched : Bool) (counter : Nat)
    (instruction : Instruction) (activation : Activation) (record : Record) (next : Nat)
    (after : Activation) (made : Record) (flow : Flow) : Prop where
  record_eq : record = passedCheck watched ++ made
  ends : ((step setting instruction).start activation).Ends made (.ok flow, after)
  advances : advance length counter flow = .ok next
  /-- A turn is not completed with an exception in flight. -/
  calm : after.stack.exception = none

theorem completed_of_turn
    (ends : ((turn setting length watched counter instruction).start activation).Ends record
      (.ok next, after)) :
    ∃ made flow, Completed setting length watched counter instruction activation record next after
      made flow := by
  obtain ⟨-, -, impossible⟩ | ⟨passed, rfl, unwatched⟩ := ends_turn_iff.1 ends
  · cases impossible
  rw [start_turn_unwatched, ends_start_bind_iff] at unwatched
  obtain ⟨_, _, _, impossible⟩ | ⟨made, flow, between, rest, rfl, steps, raises⟩ := unwatched
  · cases impossible
  rw [ends_start_bind_iff] at raises
  obtain ⟨_, _, _, impossible⟩ | ⟨more, _, final, last, rfl, raised, goes⟩ := raises
  · cases impossible
  obtain ⟨rfl, rfl, calm⟩ := of_ends_raiseThrown raised
  cases advances : advance length counter flow with
  | error error =>
      rw [advances] at goes
      cases goes
  | ok target =>
      rw [advances] at goes
      cases goes
      exact ⟨made, flow, congrArg _ (List.append_nil made), steps, advances, calm⟩

/-- A turn in which no code is run asks what its instruction asks. -/
theorem asks_codeless_turn
    (calm : activation.stack.exception = none) (codeless : instruction.runsCode = false)
    {asked : Inquiry}
    (asks : ((turn setting length watched counter instruction).start activation).Asks
      record asked) :
    asked = .cancelled ∨ ∃ made, ((step setting instruction).start activation).Asks made asked := by
  obtain ⟨-, -, rfl⟩ | ⟨passed, rfl, unwatched⟩ := asks_turn_iff.1 asks
  · exact .inl rfl
  rw [start_turn_unwatched, asks_start_bind_iff] at unwatched
  obtain executes | ⟨first, flow, between, rest, rfl, ends, raises⟩ := unwatched
  · exact .inr ⟨passed, executes⟩
  have still := ((footing_calm codeless).of_ends calm ends).2
  rw [start_bind_of_done (start_raiseThrown_none setting still)] at raises
  exact (not_asks_ofExcept raises).elim

end Turns

/-! ## Journals -/

variable (setting : Setting) (program : Program) (watched : Bool) (id : FrameId)

/-- Completed turns and their exchanges lead from the start of a run to a counter. -/
inductive Journal : List Moment → Record → Nat → Activation → Prop where
  | start : Journal [] [] 0 ⟨id, .empty⟩
  | turn
      {moments : List Moment} {record more : Record} {counter next : Nat}
      {activation after : Activation} {instruction : Instruction}
      (journal : Journal moments record counter activation)
      (found : program[counter]? = some instruction)
      (ends : ((turn setting program.length watched counter instruction).start activation).Ends
        more (.ok next, after)) :
      Journal (moments ++ [⟨counter, instruction, activation⟩]) (record ++ more) next after

variable {setting program watched id} {moments : List Moment} {record : Record} {counter : Nat}
  {activation : Activation}

/-- Between turns there is no exception in flight. -/
theorem Journal.calm
    (journal : Journal setting program watched id moments record counter activation) :
    activation.stack.exception = none := by
  cases journal with
  | start => rfl
  | turn journal found ends =>
      obtain ⟨made, flow, completed⟩ := completed_of_turn ends
      exact completed.calm

/-- The turns of a journal are turns of the program. -/
theorem Journal.found
    (journal : Journal setting program watched id moments record counter activation) :
    ∀ moment ∈ moments, program[moment.counter]? = some moment.instruction := by
  induction journal with
  | start => simp
  | turn _ found _ ih =>
      intro moment member
      rcases List.mem_append.1 member with earlier | last
      · exact ih moment earlier
      · rw [List.mem_singleton.1 last]
        exact found

/-- A journal is continued by the turns that a run completes. -/
theorem Journal.onward
    {more : Record} {last : Nat} {final : Activation}
    (passes : Passes setting program watched counter activation more last final)
    (journal : Journal setting program watched id moments record counter activation) :
    ∃ moments, Journal setting program watched id moments (record ++ more) last final := by
  induction passes generalizing moments record with
  | here => exact ⟨moments, by rwa [List.append_nil]⟩
  | turn found ends _ ih =>
      rw [← List.append_assoc]
      exact ih (.turn journal found ends)

/-- Where a journal has led, a run goes on as one that starts there. -/
theorem Journal.ends_runFrom
    (journal : Journal setting program watched id moments record counter activation)
    {limit : Nat} {rest : Record} {ended : Except Halt RemoteValue × Activation}
    (ends : ((runFrom setting program watched limit counter).start activation).Ends rest ended) :
    ((runFrom setting program watched (moments.length + limit) 0).start ⟨id, .empty⟩).Ends
      (record ++ rest) ended := by
  induction journal generalizing limit rest with
  | start => rwa [List.length_nil, Nat.zero_add, List.nil_append]
  | @turn moments _ more _ _ _ _ _ _ found passed ih =>
      rw [List.length_append, List.length_singleton, Nat.add_assoc, Nat.add_comm 1,
        List.append_assoc]
      refine ih ?_
      rw [start_runFrom found, ends_bind_iff]
      exact ⟨more, _, rest, rfl, passed, ends⟩

variable (setting program watched counter activation) in
/-- How a run that is left with so many turns ends without completing another one. -/
inductive Closes (left : Nat) : Record → Except Halt RemoteValue → Prop where
  /-- There is no further instruction, and the value that is left is the result. -/
  | finished (beyond : program[counter]? = none) :
      Closes left [] (activation.stack.result.mapError .failed)
  | limited (within : counter < program.length) (spent : left = 0) :
      Closes left [] (.error .exhausted)
  | broken
      {instruction : Instruction} {last : Record} {halt : Halt} {after : Activation}
      (found : program[counter]? = some instruction)
      (ends : ((turn setting program.length watched counter instruction).start activation).Ends
        last (.error halt, after)) :
      Closes left last (.error halt)

theorem closes_of_beyond
    (beyond : program[counter]? = none) {limit : Nat} {rest : Record}
    {result : Except Halt RemoteValue} {final : Activation}
    (ends : ((runFrom setting program watched limit counter).start activation).Ends rest
      (result, final)) :
    Closes setting program watched counter activation limit rest result := by
  rw [runFrom_beyond beyond] at ends
  have finished : ((ofExcept activation.stack.result).start activation).Ends rest
      (result, final) := ends
  have closed : Closes setting program watched counter activation limit []
      (activation.stack.result.mapError .failed) := .finished beyond
  cases left : activation.stack.result with
  | ok value =>
      rw [left] at finished closed
      cases finished
      exact closed
  | error error =>
      rw [left] at finished closed
      cases finished
      exact closed

/-- A run that goes on from a journal completes further turns, and then it ends. -/
theorem Journal.closes
    (journal : Journal setting program watched id moments record counter activation)
    {limit : Nat} {rest : Record} {result : Except Halt RemoteValue} {final : Activation}
    (ends : ((runFrom setting program watched limit counter).start activation).Ends rest
      (result, final)) :
    ∃ passed earlier last now reached left, record ++ rest = earlier ++ last ∧
      passed.length + left = moments.length + limit ∧
      Journal setting program watched id passed earlier now reached ∧
      Closes setting program watched now reached left last result := by
  induction limit generalizing moments record counter activation rest with
  | zero =>
      cases found : program[counter]? with
      | none => exact ⟨moments, record, rest, counter, activation, 0, rfl, rfl, journal,
          closes_of_beyond found ends⟩
      | some instruction =>
          simp only [runFrom, found] at ends
          cases ends
          exact ⟨moments, record, [], counter, _, 0, rfl, rfl, journal,
            .limited (List.getElem?_eq_some_iff.1 found).1 rfl⟩
  | succ limit ih =>
      cases found : program[counter]? with
      | none => exact ⟨moments, record, rest, counter, activation, limit + 1, rfl, rfl, journal,
          closes_of_beyond found ends⟩
      | some instruction =>
          rw [start_runFrom found, ends_bind_iff] at ends
          obtain ⟨first, ⟨ended, between⟩, second, rfl, turned, ends⟩ := ends
          cases ended with
          | error halt =>
              cases ends
              rw [List.append_nil]
              exact ⟨moments, record, first, counter, activation, limit + 1, rfl, rfl, journal,
                .broken found turned⟩
          | ok next =>
              have later := ih (journal.turn found turned) ends
              rwa [List.append_assoc, List.length_append, List.length_singleton,
                Nat.add_assoc, Nat.add_comm 1] at later

end Evaluation

namespace Context

open Dialogue Evaluation

/-- What a run asks, it asks in a turn that follows the turns of a journal. -/
theorem journal_of_asks
    {context : Context} {mode : RunMode} {program : Program} {record : Record} {asked : Inquiry}
    (asks : (context.run mode program).Asks record asked) :
    ∃ moments earlier current counter activation instruction, record = earlier ++ current ∧
      Journal ⟨context.binding, mode.searchLimit⟩ program mode.watched context.frameId
        moments earlier counter activation ∧
      program[counter]? = some instruction ∧
      ((turn ⟨context.binding, mode.searchLimit⟩ program.length mode.watched counter
        instruction).start activation).Asks current asked := by
  rw [run, asks_evaluate_iff] at asks
  obtain ⟨current, within⟩ := asks_runFrom asks
  cases within with
  | @intro earlier _ counter activation instruction _ passes found asks =>
      obtain ⟨moments, journal⟩ := Journal.onward passes .start
      exact ⟨moments, earlier, current, counter, activation, instruction, rfl, journal, found,
        asks⟩

/-- A run completes the turns of a journal, and then it ends. -/
theorem closes_of_ends
    {context after : Context} {mode : RunMode} {program : Program} {record : Record}
    {result : Except Halt RemoteValue}
    (ends : (context.run mode program).Ends record (result, after)) :
    ∃ moments earlier last counter activation left, record = earlier ++ last ∧
      moments.length + left = mode.stepLimit ∧
      Journal ⟨context.binding, mode.searchLimit⟩ program mode.watched context.frameId
        moments earlier counter activation ∧
      Closes ⟨context.binding, mode.searchLimit⟩ program mode.watched counter activation left
        last result := by
  obtain ⟨final, ends, -⟩ := (ends_evaluate_iff _ _ _ _ _ _).1 ends
  obtain ⟨moments, earlier, last, counter, activation, left, parts, turns, journal, closes⟩ :=
    Journal.closes .start ends
  exact ⟨moments, earlier, last, counter, activation, left, by simpa using parts,
    by simpa using turns, journal, closes⟩

end Context

end FrameEval
