import FrameEval.Console
import FrameEval.Proofs.Server.Jobs
import Mathlib.Algebra.GroupWithZero.Nat

/-!
# The server as a running process

The input is read line by line; beside the reading, jobs start and end in any order, and a
writer passes the responses on in the order in which they were sent.  The process exits when
the input has ended, no job is left and everything that was sent is written.

What is sent, what the jobs owe and what the unread lines ask for make up the `account` of a
process.  No step changes it, every step lowers the `potential`, and until the exit there is
always a next step.
-/

namespace FrameEval.Server

open Wire

/-! ## What lines ask for -/

/-- What a line asks for. -/
inductive Demand where
  | nothing
  | refusal (refusal : Refusal)
  /-- The result of a request, under the id of that request. -/
  | result (id : Json)

/-- A line that says something is JSON text or refused.  A value with an id is a request or
refused, and every other value asks for nothing. -/
def demand (text : String) : Demand :=
  let line := Console.trim text
  if line.isEmpty then .nothing
  else
    match Json.parse? line with
    | none => .refusal .parseError
    | some json =>
        match json.member? "id" with
        | none => .nothing
        | some id =>
            if (Request.ofJson? json).isSome then .result id else .refusal .invalidRequest

/-- The responses that lines ask for, when their requests are numbered from here on. -/
def due (results : Nat → Except Refusal Json) (number : Nat) : List String → List Response
  | [] => []
  | line :: lines =>
      match demand line with
      | .nothing => due results number lines
      | .refusal refusal => ⟨.null, .error refusal⟩ :: due results number lines
      | .result id => ⟨id, results number⟩ :: due results (number + 1) lines

/-- A request has the id that its object has. -/
theorem id_of_ofJson?
    {json id : Json} {request : Request} (has : json.member? "id" = some id)
    (reads : Request.ofJson? json = some request) : request.id = id := by
  cases json with
  | object members =>
      simp only [Request.ofJson?, Json.fields?, List.map_cons, List.map_nil, has,
        Option.bind_eq_bind, Option.bind_some] at reads
      split at reads
      · next fields =>
          rcases Option.bind_eq_some_iff.1 reads with ⟨-, -, method⟩
          rcases Option.bind_eq_some_iff.1 method with ⟨name, -, made⟩
          cases made
          simp only [List.cons.injEq, Option.some.injEq] at fields
          exact fields.2.1.symm
      · cases reads
  | _ => cases has

/-- The response of a job that has its result. -/
def Job.response (results : Nat → Except Refusal Json) (job : Job) : Response :=
  ⟨job.request.id, results job.number⟩

@[simp]
theorem Dispatcher.response_begun
    (results : Nat → Except Refusal Json) (number : Nat) (token : Token) (job : Job) :
    (begun number token job).response results = job.response results := by
  rw [Job.response, request_begun, number_begun, Job.response]

namespace Dispatcher

/-- A line is heard, if it says something. -/
def hear (text : String) (dispatcher : Dispatcher) : Dispatcher :=
  let line := Console.trim text
  if line.isEmpty then dispatcher else dispatcher.step (.line line)

/-- What was sent, what the jobs owe, and what further lines ask for. -/
def account
    (results : Nat → Except Refusal Json) (lines : List String) (dispatcher : Dispatcher) :
    List Response :=
  dispatcher.sent ++ dispatcher.jobs.map (Job.response results) ++
    due results dispatcher.nextNumber lines

section

variable (results : Nat → Except Refusal Json)

theorem account_send
    (lines : List String) (response : Response) (dispatcher : Dispatcher) :
    ((dispatcher.send response).account results lines).Perm
      (dispatcher.sent ++ dispatcher.jobs.map (Job.response results) ++
        response :: due results dispatcher.nextNumber lines) := by
  simp only [account, send, List.append_assoc, List.singleton_append]
  apply List.Perm.append_left
  exact List.perm_middle.symm

theorem account_hear
    (text : String) (lines : List String) (dispatcher : Dispatcher) :
    ((dispatcher.hear text).account results lines).Perm
      (dispatcher.account results (text :: lines)) := by
  rw [hear, account.eq_def results (text :: lines), due, demand]
  by_cases blank : (Console.trim text).isEmpty
  · simp only [blank, if_true]
    exact List.Perm.refl _
  simp only [blank, Bool.false_eq_true, if_false, step, Message.ofLine]
  cases parsed : Json.parse? (Console.trim text) with
  | none => exact account_send results lines _ dispatcher
  | some json =>
      simp only [Message.ofJson]
      cases has : json.member? "id" with
      | none =>
          simp only
          cases Notification.ofJson? json with
          | none => exact List.Perm.refl _
          | some notification =>
              simp only [message]
              split <;> exact List.Perm.refl _
      | some id =>
          cases reads : Request.ofJson? json with
          | none => exact account_send results lines _ dispatcher
          | some request =>
              simp [message, account, Job.response, id_of_ofJson? has reads]

end

theorem numbered_hear
    {dispatcher : Dispatcher} (numbered : Numbered dispatcher) (text : String) :
    Numbered (dispatcher.hear text) := by
  rw [hear]
  split
  · exact numbered
  · exact numbered.step _

/-- What was sent stays sent. -/
theorem Change.sent
    {before after : Dispatcher} {happening : Happening}
    (change : Change before happening after) : before.sent <+: after.sent := by
  cases change with
  | refuse refused => exact List.prefix_append _ _
  | finish found runs => exact List.prefix_append _ _
  | _ => exact List.prefix_rfl

theorem sent_hear
    (text : String) (dispatcher : Dispatcher) :
    dispatcher.sent <+: (dispatcher.hear text).sent := by
  rw [hear]
  split
  · exact List.prefix_rfl
  · exact (step_change dispatcher _).sent

end Dispatcher

/-! ## Processes -/

/-- A server between two steps. -/
structure Process where
  /-- The lines that were not read yet, as bytes. -/
  unread : List Bytes
  reading : Bool
  dispatcher : Dispatcher
  /-- The responses that were written, the oldest first. -/
  written : List Response
  exited : Bool

namespace Process

def fresh (input : List Bytes) : Process := ⟨input, true, .empty, [], false⟩

/-- The lines that will still be read: the last one stands at the end of the input, or before
the first line that is no text. -/
def ahead (process : Process) : List String :=
  if process.reading then Console.decodeLines process.unread else []

/-- What can happen next, when the results of the requests are given. -/
inductive Step (results : Nat → Except Refusal Json) (before : Process) : Process → Prop where
  | hear
      {line : Bytes} {rest : List Bytes} {text : String} (reads : before.reading = true)
      (next : before.unread = line :: rest) (decodes : decodeText? line = some text) :
      Step results before
        { before with unread := rest, dispatcher := before.dispatcher.hear text }
  | stop
      (reads : before.reading = true) (ends : Console.decodeLines before.unread = []) :
      Step results before { before with reading := false }
  | start
      {number : Nat} {job : Job} (found : before.dispatcher.job? number = some job)
      (waits : job.token = none) :
      Step results before
        { before with dispatcher := before.dispatcher.step (.start number) }
  | finish
      {number : Nat} {job : Job} {token : Token}
      (found : before.dispatcher.job? number = some job) (runs : job.token = some token) :
      Step results before
        { before with
          dispatcher := before.dispatcher.step (.finish number (results number)) }
  | write
      {next : Response} {rest : List Response}
      (sent : before.dispatcher.sent = before.written ++ next :: rest) :
      Step results before { before with written := before.written ++ [next] }
  | exit
      (running : before.exited = false) (ended : before.reading = false)
      (idle : before.dispatcher.jobs = []) (through : before.written = before.dispatcher.sent) :
      Step results before { before with exited := true }

/-- So many steps lead from one process to another. -/
inductive Run (results : Nat → Except Refusal Json) (first : Process) : Nat → Process → Prop where
  | refl : Run results first 0 first
  | step
      {steps : Nat} {process next : Process} (run : Run results first steps process)
      (step : Step results process next) : Run results first (steps + 1) next

section

variable {results : Nat → Except Refusal Json} {before after : Process}

/-! ## What no step changes -/

/-- All responses of a process, those that were sent and those to come. -/
def account (results : Nat → Except Refusal Json) (process : Process) : List Response :=
  process.dispatcher.account results process.ahead

theorem account_fresh (input : List Bytes) :
    (fresh input).account results = due results 0 (Console.decodeLines input) := by
  simp [account, fresh, ahead, Dispatcher.account, Dispatcher.empty]

theorem Step.numbered
    (step : Step results before after) (numbered : before.dispatcher.Numbered) :
    after.dispatcher.Numbered := by
  cases step with
  | @hear line rest text reads next decodes =>
      have kept := Dispatcher.numbered_hear numbered text
      generalize before.dispatcher.hear text = heard at kept ⊢
      exact kept
  | start found waits => exact numbered.step (.start _)
  | finish found runs => exact numbered.step (.finish _ _)
  | _ => exact numbered

theorem Step.account
    (step : Step results before after) (numbered : before.dispatcher.Numbered) :
    (after.account results).Perm (before.account results) := by
  cases step with
  | hear reads next decodes =>
      simp only [Process.account, ahead, reads, next, Console.decodeLines, decodes, if_true]
      exact Dispatcher.account_hear results _ _ before.dispatcher
  | stop reads ends =>
      simp [Process.account, ahead, reads, ends]
  | @start number job found waits =>
      have owed : (before.dispatcher.jobs.map
          (Dispatcher.begun number before.dispatcher.inFlight.nextToken)).map
            (Job.response results) = before.dispatcher.jobs.map (Job.response results) := by
        rw [List.map_map]
        apply List.map_congr_left
        intro other member
        exact Dispatcher.response_begun results _ _ other
      simp only [Process.account, ahead, Dispatcher.account, Dispatcher.step_start found waits,
        owed]
      exact List.Perm.refl _
  | @finish number job token found runs =>
      have owed := (numbered.perm_others found).map (Job.response results)
      rw [List.map_cons, Job.response, (Dispatcher.job?_eq_some found).2] at owed
      simp only [Process.account, ahead, Dispatcher.account,
        Dispatcher.step_finish found runs, List.append_assoc, List.singleton_append]
      apply List.Perm.append_left
      exact owed.symm.append_right _
  | _ => exact List.Perm.refl _

/-! ## What every step does -/

/-- The steps that a job still takes: its start, its end, and the writing of its response. -/
def jobSteps (job : Job) : Nat :=
  if job.token = none then 3 else 2

/-- A bound for the steps that a process still takes. -/
def potential (process : Process) : Nat :=
  (if process.reading then 4 * process.unread.length + 1 else 0) +
    (process.dispatcher.jobs.map jobSteps).sum +
    (process.dispatcher.sent.length - process.written.length) +
    (if process.exited then 0 else 1)

theorem potential_hear (text : String) (dispatcher : Dispatcher) :
    ((dispatcher.hear text).jobs.map jobSteps).sum + (dispatcher.hear text).sent.length ≤
      (dispatcher.jobs.map jobSteps).sum + dispatcher.sent.length + 3 := by
  rw [Dispatcher.hear]
  split
  · omega
  · have change := Dispatcher.step_change dispatcher (.line (Console.trim text))
    generalize dispatcher.step (.line (Console.trim text)) = after at change
    cases change with
    | accept reads =>
        simp [jobSteps]
        omega
    | refuse refused =>
        simp [Dispatcher.send]
        omega
    | _ => simp

/-- What the steps keep. -/
structure Sound (process : Process) : Prop where
  numbered : process.dispatcher.Numbered
  written : process.written <+: process.dispatcher.sent
  /-- Nothing is left to do after the exit. -/
  exited : process.exited = true →
    process.reading = false ∧ process.dispatcher.jobs = [] ∧
      process.written = process.dispatcher.sent

theorem sound_fresh (input : List Bytes) : (fresh input).Sound where
  numbered := Dispatcher.numbered_empty
  written := List.prefix_rfl
  exited := by simp [fresh]

theorem Step.running
    (step : Step results before after) (sound : before.Sound) : before.exited = false := by
  by_contra finished
  rw [Bool.not_eq_false] at finished
  rcases sound.exited finished with ⟨ended, idle, through⟩
  cases step with
  | hear reads next decodes => simp [ended] at reads
  | stop reads ends => simp [ended] at reads
  | start found waits =>
      have member := (Dispatcher.job?_eq_some found).1
      simp [idle] at member
  | finish found runs =>
      have member := (Dispatcher.job?_eq_some found).1
      simp [idle] at member
  | write sent => simp [through] at sent
  | exit running ended idle through => simp [finished] at running

theorem Step.sent
    (step : Step results before after) : before.dispatcher.sent <+: after.dispatcher.sent := by
  cases step with
  | @hear line rest text reads next decodes =>
      have kept := Dispatcher.sent_hear text before.dispatcher
      generalize before.dispatcher.hear text = heard at kept ⊢
      exact kept
  | start found waits => exact (Dispatcher.step_change before.dispatcher (.start _)).sent
  | finish found runs => exact (Dispatcher.step_change before.dispatcher (.finish _ _)).sent
  | _ => exact List.prefix_rfl

theorem Step.sound
    (step : Step results before after) (sound : before.Sound) : after.Sound := by
  have running := step.running sound
  have kept := sound.written.trans step.sent
  refine ⟨step.numbered sound.numbered, ?_, ?_⟩
  · cases step with
    | write sent => exact ⟨_, (List.append_assoc _ _ _).trans sent.symm⟩
    | _ => exact kept
  · intro finished
    cases step with
    | exit running ended idle through => exact ⟨ended, idle, through⟩
    | _ => simp [running] at finished

theorem Step.potential
    (step : Step results before after) (sound : before.Sound) :
    after.potential < before.potential := by
  have running := step.running sound
  have written := sound.written.length_le
  have kept := step.sent.length_le
  cases step with
  | @hear line rest text reads next decodes =>
      have heard := potential_hear text before.dispatcher
      simp only [Process.potential, reads, next, List.length_cons, if_true]
      dsimp only at kept
      omega
  | stop reads ends =>
      simp [Process.potential, reads]
  | @start number job found waits =>
      have whole := ((sound.numbered.perm_others found).map jobSteps).sum_nat
      have begun := ((sound.numbered.perm_map_begun found
        before.dispatcher.inFlight.nextToken).map jobSteps).sum_nat
      have three : jobSteps job = 3 := by rw [jobSteps, if_pos waits]
      have two : jobSteps { job with token := some before.dispatcher.inFlight.nextToken } = 2 := by
        simp [jobSteps]
      simp only [List.map_cons, List.sum_cons, three, two] at whole begun
      simp only [Process.potential, Dispatcher.step_start found waits]
      omega
  | @finish number job token found runs =>
      have whole := ((sound.numbered.perm_others found).map jobSteps).sum_nat
      have two : jobSteps job = 2 := by simp [jobSteps, runs]
      simp only [List.map_cons, List.sum_cons, two, Dispatcher.others] at whole
      simp only [Process.potential, Dispatcher.step_finish found runs, List.length_append,
        List.length_singleton]
      omega
  | write sent =>
      simp [Process.potential, sent]
      omega
  | exit running ended idle through =>
      simp [Process.potential, running]

/-- Until the exit there is something to do. -/
theorem Sound.exists_step
    {process : Process} (results : Nat → Except Refusal Json) (sound : process.Sound)
    (running : process.exited = false) : ∃ next, Step results process next := by
  by_cases reads : process.reading = true
  · cases next : process.unread with
    | nil =>
        refine ⟨_, .stop reads ?_⟩
        rw [next, Console.decodeLines]
    | cons line rest =>
        cases decodes : decodeText? line with
        | some text => exact ⟨_, .hear reads next decodes⟩
        | none =>
            refine ⟨_, .stop reads ?_⟩
            rw [next, Console.decodeLines, decodes]
  rw [Bool.not_eq_true] at reads
  cases idle : process.dispatcher.jobs with
  | cons job rest =>
      have found : process.dispatcher.job? job.number = some job := by
        apply sound.numbered.job?_eq_some_iff.2
        rw [idle]
        exact ⟨List.mem_cons_self, rfl⟩
      cases waits : job.token with
      | none => exact ⟨_, .start found waits⟩
      | some token => exact ⟨_, .finish found waits⟩
  | nil =>
      rcases sound.written with ⟨unwritten, sent⟩
      cases unwritten with
      | cons next rest => exact ⟨_, .write sent.symm⟩
      | nil =>
          rw [List.append_nil] at sent
          exact ⟨_, .exit running reads idle sent⟩

/-! ## Runs -/

section

variable {first process : Process} {steps : Nat}

theorem Run.sound (run : Run results first steps process) (sound : first.Sound) :
    process.Sound := by
  induction run with
  | refl => exact sound
  | step run step ih => exact step.sound ih

theorem Run.account (run : Run results first steps process) (sound : first.Sound) :
    (process.account results).Perm (first.account results) := by
  induction run with
  | refl => exact List.Perm.refl _
  | step run step ih => exact (step.account (run.sound sound).numbered).trans ih

theorem Run.steps_le (run : Run results first steps process) (sound : first.Sound) :
    steps + process.potential ≤ first.potential := by
  induction run with
  | refl => simp
  | step run step ih =>
      have lower := step.potential (run.sound sound)
      omega

end

end

end Process

end FrameEval.Server
