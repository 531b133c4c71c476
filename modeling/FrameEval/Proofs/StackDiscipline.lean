import FrameEval.Proofs.Evaluation.Turn
import FrameEval.Proofs.Targets

/-!
# Stack discipline

A program has a depth assignment if a number of operands can be given to each of its counters
so that every instruction finds the operands it takes and leaves its successors as many as they
are given.  The stack of a run then has the assigned depth at every counter, so the run cannot
end in a stack underflow, in a result of other than one value, or in a jump outside the
program, unless the target itself answers with such an error.  Neither of the two targets does.
-/

namespace FrameEval

open Dialogue Evaluation Wire

/-- A number of operands for each counter of a program that its instructions keep to. -/
structure DepthAssignment (program : Program) (depth : Nat → Nat) : Prop where
  starts : depth 0 = 0
  ends : depth program.length = 1
  stays : ∀ {counter target : Nat} {instruction : Instruction},
    program[counter]? = some instruction → Flow.jump target ∈ instruction.flows →
      target ≤ program.length
  covers : ∀ {counter : Nat} {instruction : Instruction},
    program[counter]? = some instruction → instruction.pops ≤ depth counter
  carries : ∀ {counter : Nat} {instruction : Instruction},
    program[counter]? = some instruction → ∀ next ∈ instruction.successors counter,
      depth next = depth counter - instruction.pops + instruction.pushes

namespace Evaluation

/-- No operation of a record was answered with an error of the instruction sequence. -/
def Disciplined (record : Record) : Prop :=
  ∀ operation error, failure operation (.failed error) ∈ record → error.isInternal = false

theorem Disciplined.not_isMisstep
    {record : Record} {operation : Operation} {error : EvalError}
    (disciplined : Disciplined record)
    (member : failure operation (.failed error) ∈ record) :
    ¬ error.IsMisstep := by
  intro misstep
  have internal := misstep.isInternal
  rw [disciplined operation error member] at internal
  cases internal

/-- A description that ends in a misstep was answered with it. -/
theorem Told.misstep
    {setting : Setting} {exception : ObjectHandle} {record : Record} {error : EvalError}
    (told : Told setting exception record (.failed error)) (misstep : error.IsMisstep) :
    ∃ operation, failure operation (.failed error) ∈ record := by
  cases told with
  | unnamed => exact ⟨_, List.mem_singleton.2 rfl⟩
  | passed muted final =>
      cases muted with
      | refused wording =>
          exact ⟨_, .tail _ (List.mem_append_right _ (List.mem_singleton.2 rfl))⟩
      | arity => exact misstep.elim
      | stale => exact misstep.elim
  | muted muted passing => exact misstep.elim
  | silent => exact misstep.elim
  | unread => exact ⟨_, List.mem_append_right _ (List.mem_singleton.2 rfl)⟩
  | said => exact misstep.elim

/-- The stack has exactly the depth that is given to it. -/
def stackRegime : Regime where
  asks _ _ := True
  stops record halt := Disciplined record → ∀ error, halt = .failed error → ¬ error.IsMisstep
  holds height _ activation :=
    activation.stack.exception = none ∧ activation.stack.size = height
  thrown _ _ := True

theorem stackRegime_admits
    {record : Record} {operation : Operation}
    {after : Record → operation.Answer → Prop}
    (returns : ∀ answer, after (record ++ [success operation answer]) answer) :
    stackRegime.Admits record operation after where
  asks := trivial
  returns := returns
  stops := by
    rintro _ disciplined error rfl
    exact disciplined.not_isMisstep (List.mem_append_right _ (List.mem_singleton.2 rfl))

theorem stackRegime_sound
    (setting : Setting) : stackRegime.Sound setting where
  calm holds := holds.1
  restack := by
    rintro height after record activation stack ⟨-, size⟩ calm balance
    refine ⟨calm, ?_⟩
    show stack.size = after
    omega
  fails := by
    rintro height record activation error - honest - _ ⟨⟩
    exact honest
  underflows := by
    rintro height record activation ⟨-, size⟩ short
    omega
  exhausts := by
    rintro height record activation - - error ⟨⟩
  aborts := by
    rintro height record activation - - error ⟨⟩
  watches holds := ⟨trivial, fun _ => holds⟩
  performs holds _ _ := stackRegime_admits fun _ => holds
  runs _ _ _ := stackRegime_admits fun _ => stackRegime_admits fun _ => trivial
  resumes := by
    rintro height record activation outcome info later holds invoked same
    cases outcome with
    | returned value => exact holds
    | threw exception => trivial
  goesStale := by
    rintro height record activation outcome info later detail - - - - _ ⟨⟩
    exact id
  tells _ _ := trivial
  told := by
    rintro exception record more halt - told disciplined error rfl misstep
    rcases told.misstep misstep with ⟨operation, member⟩
    exact disciplined.not_isMisstep (List.mem_append_right _ member) misstep

/-- With one operand left there is a result. -/
theorem result_of_size
    {stack : OperandStack} (single : stack.size = 1) :
    ∃ value, stack.result = .ok value := by
  rcases List.length_eq_one_iff.1 single with ⟨value, same⟩
  exact ⟨value, by rw [OperandStack.result, same]⟩

theorem stackRegime_allows
    {program : Program} {depth : Nat → Nat} (assigned : DepthAssignment program depth) :
    stackRegime.Allows program depth where
  passes := by
    intro counter instruction found
    refine ⟨depth counter - instruction.pops, ?_, ?_⟩
    · rintro record activation ⟨calm, size⟩
      exact ⟨calm, by have covered := assigned.covers found; omega⟩
    · rintro next reached record activation ⟨calm, size⟩
      exact ⟨calm, by rw [size, assigned.carries found next reached]⟩
  strays found jumps outside := absurd (assigned.stays found jumps) outside
  finishes := by
    rintro record activation error ⟨-, size⟩ failed
    rcases result_of_size (size.trans assigned.ends) with ⟨value, same⟩
    rw [same] at failed
    cases failed

variable {program : Program} {depth : Nat → Nat} {context : Context} {mode : RunMode}

/-- The stack has the assigned depth wherever completed turns lead. -/
theorem size_eq_depth
    {setting : Setting} {watched : Bool} {frameId : FrameId} {record : Record}
    {counter : Nat} {activation : Activation}
    (assigned : DepthAssignment program depth)
    (passes : Passes setting program watched 0 ⟨frameId, .empty⟩ record counter activation) :
    counter ≤ program.length ∧ activation.stack.size = depth counter := by
  have start : stackRegime.holds (depth 0) [] ⟨frameId, .empty⟩ := ⟨rfl, assigned.starts.symm⟩
  have reached := (stackRegime_sound setting).passes (stackRegime_allows assigned) passes
    [] (Nat.zero_le _) start
  exact ⟨reached.1, reached.2.2⟩

theorem not_isMisstep_of_disciplined
    {record : Record} {error : EvalError} {after : Context}
    (assigned : DepthAssignment program depth) (disciplined : Disciplined record)
    (ends : (context.run mode program).Ends record (.error (.failed error), after)) :
    ¬ error.IsMisstep := by
  have whole := context.run_meets (stackRegime_sound ⟨context.binding, mode.searchLimit⟩)
    (stackRegime_allows assigned) ⟨rfl, assigned.starts.symm⟩
  exact whole.2.1 record _ after ends disciplined error rfl

/-! ## Both targets -/

theorem disciplined_transcript
    {α : Type} (dialogue : Dialogue Inquiry Inquiry.Answer α) (world : World) :
    Disciplined (dialogue.transcript World.handle world) := by
  intro operation error member
  rcases answered_of_mem_transcript World.handle dialogue world member with ⟨before, answered⟩
  exact (before.declines_answer operation _ answered error rfl).1

theorem disciplined_of_link
    {record : Record} {usage : Remote.Usage}
    {cancelled : Dialogue Remote.Request Remote.Request.Answer Bool}
    (known : ∀ exchange ∈ record, ∃ part,
      (Remote.handle usage cancelled exchange.1).Ends part exchange.2) :
    Disciplined record := by
  intro operation error member
  rcases known _ member with ⟨part, ends⟩
  exact Remote.honest_answer usage operation part error ends

end Evaluation

/-- A run of a program with a depth assignment ends neither in a stack underflow, nor in a
malformed result, nor in a jump outside the program, whatever the target answers other than
errors of the instruction sequence; in memory or over a link it never does. -/
theorem run_keeps_stack_discipline
    {program : Program} {depth : Nat → Nat} (assigned : DepthAssignment program depth)
    (context : Context) (mode : RunMode) :
    (∀ record error after, (context.run mode program).Ends record (.error (.failed error), after) →
      Disciplined record → ¬ error.IsMisstep) ∧
    (∀ world error,
      ((context.run mode program).run World.handle world).1.1 = .error (.failed error) →
        ¬ error.IsMisstep) ∧
    (∀ usage cancelled below error after,
      ((context.run mode program).substitute (Remote.handle usage cancelled)).Ends below
        (.error (.failed error), after) → ¬ error.IsMisstep) := by
  refine ⟨?_, ?_, ?_⟩
  · intro record error after ends disciplined
    exact not_isMisstep_of_disciplined assigned disciplined ends
  · intro world error failed
    have ends := ends_transcript World.handle (context.run mode program) world
    obtain ⟨after, same⟩ : ∃ after,
        ((context.run mode program).run World.handle world).1 =
          (.error (.failed error), after) := ⟨_, Prod.ext failed rfl⟩
    rw [same] at ends
    exact not_isMisstep_of_disciplined assigned (disciplined_transcript _ world) ends
  · intro usage cancelled below error after ends
    rcases ends_substitute _ _ ends with ⟨record, ends, known⟩
    exact not_isMisstep_of_disciplined assigned (disciplined_of_link known) ends

/-- A loop around a condition, and after it the receiver of the frame. -/
def awaitReceiver : Program :=
  [.pushLiteral (.boolean true), .jumpIfFalse 0, .pushThis]

theorem depthAssignment_awaitReceiver :
    DepthAssignment awaitReceiver fun counter => counter % 2 where
  starts := rfl
  ends := rfl
  stays := by
    rintro (_ | _ | _ | counter) target instruction ⟨⟩ jumps <;>
      simp [Instruction.flows, awaitReceiver] at jumps ⊢
    omega
  covers := by
    rintro (_ | _ | _ | counter) instruction ⟨⟩ <;> decide
  carries := by
    rintro (_ | _ | _ | counter) instruction ⟨⟩ <;> decide

/-- The first frame of a thread, in a method without local variables. -/
def topFrame : Context :=
  ⟨⟨1, 0, ⟨1, 2, 3, 0⟩, .empty⟩, 7⟩

theorem awaitReceiver_keeps_stack_discipline :
    (topFrame.run ⟨false, 5, 0⟩ awaitReceiver).Ends
        [failure (.thisObject 1 7) (.failed .staleHandle)]
        (.error (.failed .staleHandle), topFrame) ∧
      Disciplined [failure (.thisObject 1 7) (.failed .staleHandle)] ∧
      ¬ EvalError.staleHandle.IsMisstep := by
  have ends : (topFrame.run ⟨false, 5, 0⟩ awaitReceiver).Ends
      [failure (.thisObject 1 7) (.failed .staleHandle)]
      (.error (.failed .staleHandle), topFrame) := .ask .done
  have disciplined : Disciplined [failure (.thisObject 1 7) (.failed .staleHandle)] := by
    rintro operation error member
    cases List.mem_singleton.1 member
    rfl
  exact ⟨ends, disciplined,
    (run_keeps_stack_discipline depthAssignment_awaitReceiver topFrame ⟨false, 5, 0⟩).1
      _ _ _ ends disciplined⟩

end FrameEval
