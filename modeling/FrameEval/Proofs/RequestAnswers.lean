import FrameEval.Proofs.Server.Process
import Mathlib.Data.List.Permutation

/-!
# The answers to requests

Whatever the order in which lines are read, jobs start and end, and responses are written: the
process exits after a bounded number of steps, and what it has written by then is what its
input asks for, each response once.  This holds for requests that still run when the input
ends, too.
-/

namespace FrameEval.Server

open Wire Process

/-- A response is written with a result or with an error, and not with both. -/
theorem count_outcome (response : Response) :
    (response.members.map Prod.fst).count "result" +
      (response.members.map Prod.fst).count "error" = 1 := by
  rcases response with ⟨id, result⟩
  cases result <;> rfl

/-- Every run of a process is short and can go on until the exit, and at the exit it has
written exactly the responses that its lines ask for. -/
theorem requests_are_answered_once
    {results : Nat → Except Refusal Json} {input : List Bytes} {steps : Nat} {process : Process}
    (run : Run results (fresh input) steps process) :
    steps ≤ 4 * input.length + 2 ∧
      (process.exited = false → ∃ next, Step results process next) ∧
      (process.exited = true →
        process.written.Perm (due results 0 (Console.decodeLines input)) ∧
        ∀ response ∈ process.written,
          (response.members.map Prod.fst).count "result" +
            (response.members.map Prod.fst).count "error" = 1) := by
  have sound := run.sound (sound_fresh input)
  refine ⟨?_, sound.exists_step results, ?_⟩
  · have lower := run.steps_le (sound_fresh input)
    have whole : (fresh input).potential = 4 * input.length + 2 := by
      simp [potential, fresh, Dispatcher.empty]
    omega
  · intro finished
    rcases sound.exited finished with ⟨ended, idle, through⟩
    constructor
    · have answered := run.account (sound_fresh input)
      rw [account_fresh] at answered
      simpa [account, ahead, ended, Dispatcher.account, idle, due, ← through] using answered
    · intro response member
      exact count_outcome response

/-- A request whose id is null. -/
def nullLine : String :=
  "\x7b\"jsonrpc\":\"2.0\",\"id\":null,\"method\":\"ping\"\x7d"

/-- A blank line, a request and a line that is no JSON text. -/
def mixedInput : List Bytes :=
  [encodeText " ", encodeText nullLine, encodeText "ping"]

theorem hear_blank (dispatcher : Dispatcher) : dispatcher.hear " " = dispatcher := by
  have blank : Console.trim " " = "" := by decide +kernel
  rw [Dispatcher.hear, blank]
  rfl

theorem hear_nullLine (dispatcher : Dispatcher) :
    dispatcher.hear nullLine =
      dispatcher.message (.request ⟨.null, "ping", none⟩) := by
  have trimmed : Console.trim nullLine = nullLine := by decide +kernel
  have said : nullLine.isEmpty = false := by decide +kernel
  have reads : Message.ofLine nullLine = .request ⟨.null, "ping", none⟩ := by cbv
  rw [Dispatcher.hear, trimmed, said, if_neg Bool.false_ne_true, Dispatcher.step, reads]

theorem hear_ping (dispatcher : Dispatcher) :
    dispatcher.hear "ping" = dispatcher.message .unparsable := by
  have trimmed : Console.trim "ping" = "ping" := by decide +kernel
  have said : "ping".isEmpty = false := by decide +kernel
  have reads : Message.ofLine "ping" = .unparsable := by cbv
  rw [Dispatcher.hear, trimmed, said, if_neg Bool.false_ne_true, Dispatcher.step, reads]

/-- Every request gets null. -/
def nothing (_ : Nat) : Except Refusal Json := .ok .null

/-- The request ends after the input. -/
theorem run_mixedInput :
    ∃ process, Run nothing (fresh mixedInput) 9 process ∧ process.exited = true ∧
      process.written = [⟨.null, .error .parseError⟩, ⟨.null, .ok .null⟩] := by
  have run : Run nothing (fresh mixedInput) 0 (fresh mixedInput) := .refl
  have run := run.step (.hear rfl rfl (decodeText?_encodeText " "))
  simp only [fresh, hear_blank] at run
  have run := run.step (.hear rfl rfl (decodeText?_encodeText nullLine))
  simp only [hear_nullLine, Dispatcher.message, Dispatcher.empty, List.nil_append] at run
  have run := run.step (@Step.start _ _ 0 ⟨0, ⟨.null, "ping", none⟩, none⟩ rfl rfl)
  have run := run.step (.hear rfl rfl (decodeText?_encodeText "ping"))
  simp only [hear_ping, Dispatcher.message] at run
  have run := run.step (.stop rfl rfl)
  have run := run.step (.write rfl)
  have run := run.step (@Step.finish _ _ 0 ⟨0, ⟨.null, "ping", none⟩, some 0⟩ 0 rfl rfl)
  have run := run.step (.write rfl)
  have run := run.step (.exit rfl rfl rfl rfl)
  exact ⟨_, run, rfl, rfl⟩

theorem late_result_is_written :
    ∃ process, Run nothing (fresh mixedInput) 9 process ∧ process.exited = true ∧
      process.written = [⟨.null, .error .parseError⟩, ⟨.null, .ok .null⟩] ∧
      process.written.Perm (due nothing 0 (Console.decodeLines mixedInput)) := by
  rcases run_mixedInput with ⟨process, run, finished, written⟩
  rcases requests_are_answered_once run with ⟨-, -, answered⟩
  exact ⟨process, run, finished, written, (answered finished).1⟩

end FrameEval.Server
