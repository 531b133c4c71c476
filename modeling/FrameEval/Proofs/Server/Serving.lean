import FrameEval.Proofs.Server.Process

/-!
# Serving one line after another

A host handles each request to its end before it reads the next line.  This is one of the runs
of a process, the one in which every job starts and ends as soon as its line is read.  What
holds of every run of a process therefore holds of a host that serves an input, and so a host
sends what its input asks for.
-/

namespace FrameEval.Server

open Wire

section

variable {World : Type} (surroundings : Surroundings World) (setup : Setup)

/-! ## What a host does to its dispatch -/

namespace Dispatcher

theorem nextNumber_start (number : Nat) (dispatcher : Dispatcher) :
    (dispatcher.start number).nextNumber = dispatcher.nextNumber := by
  rw [start]
  split <;> rfl

theorem nextNumber_finish
    (number : Nat) (result : Except Refusal Json) (dispatcher : Dispatcher) :
    (dispatcher.finish number result).nextNumber = dispatcher.nextNumber := by
  rw [finish]
  split <;> rfl

theorem nextNumber_le_line (line : String) (dispatcher : Dispatcher) :
    dispatcher.nextNumber ≤ (dispatcher.step (.line line)).nextNumber := by
  have change := step_change dispatcher (.line line)
  generalize dispatcher.step (.line line) = after at change
  cases change with
  | accept reads => exact Nat.le_succ _
  | _ => exact Nat.le_refl _

end Dispatcher

namespace Host

theorem dispatcher_act
    (token : Token) (action : Action) (host : Host World) :
    (act surroundings token action host).2.dispatcher = host.dispatcher := by
  cases action <;> rfl

theorem dispatcher_answer
    (token : Token) (query : Query) (host : Host World) :
    (answer surroundings token query host).2.dispatcher = host.dispatcher := by
  cases query with
  | plain action => exact dispatcher_act surroundings token action host
  | interruptible action =>
      rw [answer]
      split
      · rfl
      · exact dispatcher_act surroundings token action host

/-- The handling of a request leaves the dispatch alone. -/
theorem dispatcher_run
    {α : Type} (token : Token) (handling : Handling α) (host : Host World) :
    (handling.run (answer surroundings token) host).2.dispatcher = host.dispatcher := by
  induction handling generalizing host with
  | done result => rfl
  | ask query next ih => exact (ih _ _).trans (dispatcher_answer surroundings token query host)

/-- A job starts, and it is over when its request has a result. -/
theorem dispatcher_handleJob
    (number : Nat) (host : Host World) :
    (host.handleJob surroundings setup number).dispatcher = host.dispatcher.start number ∨
      ∃ job token result, (host.dispatcher.start number).job? number = some job ∧
        job.token = some token ∧
        (host.handleJob surroundings setup number).dispatcher =
          (host.dispatcher.start number).finish number result := by
  rw [handleJob]
  dsimp only
  split
  · next known request token found =>
      generalize handled : (handle setup request).run (answer surroundings token) _ = pair
      have kept := congrArg (fun pair => pair.2.dispatcher) handled
      rw [dispatcher_run] at kept
      rcases pair with ⟨result, after⟩
      cases result with
      | none => exact .inl kept.symm
      | some result =>
          refine .inr ⟨_, token, result, found, rfl, ?_⟩
          exact congrArg (Dispatcher.finish number result) kept.symm
  · exact .inl rfl

theorem nextNumber_handleJob
    (number : Nat) (host : Host World) :
    (host.handleJob surroundings setup number).dispatcher.nextNumber =
      host.dispatcher.nextNumber := by
  rcases dispatcher_handleJob surroundings setup number host with
    begun | ⟨job, token, result, -, -, done⟩
  · rw [begun, Dispatcher.nextNumber_start]
  · rw [done, Dispatcher.nextNumber_finish, Dispatcher.nextNumber_start]

theorem numbered_handleJob
    (number : Nat) {host : Host World} (numbered : host.dispatcher.Numbered) :
    (host.handleJob surroundings setup number).dispatcher.Numbered := by
  have begun := numbered.step (.start number)
  rcases dispatcher_handleJob surroundings setup number host with
    started | ⟨job, token, result, -, -, done⟩
  · rw [started]
    exact begun
  · rw [done]
    exact begun.step (.finish number result)

end Host

/-! ## The run of a host -/

namespace Process

variable {results : Nat → Except Refusal Json} {first middle last : Process}

theorem Run.trans
    {steps more : Nat} (run : Run results first steps middle)
    (onward : Run results middle more last) : Run results first (steps + more) last := by
  induction onward with
  | refl => exact run
  | step _ step ih => exact .step ih step

/-- Some steps lead from one process to another. -/
def Leads (results : Nat → Except Refusal Json) (first last : Process) : Prop :=
  ∃ steps, Run results first steps last

theorem Leads.refl (process : Process) : Leads results process process :=
  ⟨0, .refl⟩

theorem Leads.single (step : Step results first last) : Leads results first last :=
  ⟨1, .step .refl step⟩

theorem Leads.trans
    (leads : Leads results first middle) (onward : Leads results middle last) :
    Leads results first last := by
  rcases leads with ⟨steps, run⟩
  rcases onward with ⟨more, rest⟩
  exact ⟨steps + more, run.trans rest⟩

/-- A process whose dispatch has gone on. -/
def withDispatcher (dispatcher : Dispatcher) (process : Process) : Process :=
  { process with dispatcher := dispatcher }

theorem leads_start (number : Nat) (process : Process) :
    Leads results process (process.withDispatcher (process.dispatcher.start number)) := by
  cases found : process.dispatcher.job? number with
  | none =>
      rw [Dispatcher.start, found]
      exact .refl process
  | some job =>
      cases waits : job.token with
      | none => exact .single (.start found waits)
      | some token =>
          have same : process.dispatcher.start number = process.dispatcher := by
            rw [Dispatcher.start, found]
            split
            · next other =>
                cases other
                cases waits
            · rfl
          rw [same]
          exact .refl process

/-- A job is done from its start to its end, if its request has that result. -/
theorem leads_handleJob
    (number : Nat) (host : Host World) :
    ∃ result, ∀ results : Nat → Except Refusal Json,
      (∀ job, (host.dispatcher.start number).job? number = some job → results number = result) →
        ∀ process : Process, process.dispatcher = host.dispatcher →
          Leads results process
            (process.withDispatcher (host.handleJob surroundings setup number).dispatcher) := by
  rcases Host.dispatcher_handleJob surroundings setup number host with
    begun | ⟨job, token, result, found, runs, done⟩
  · refine ⟨.error .parseError, fun results _ process same => ?_⟩
    rw [begun, ← same]
    exact leads_start number process
  · refine ⟨result, fun results agrees process same => ?_⟩
    rw [done, ← same, ← agrees job found]
    rw [← same] at found
    apply (leads_start number process).trans
    apply Leads.single
    exact @Step.finish _ (process.withDispatcher (process.dispatcher.start number))
      number job token found runs

end Process

/-! ## Inputs -/

namespace Host

/-- A line is heard, if it says something. -/
def hear (surroundings : Surroundings World) (setup : Setup) (text : String)
    (host : Host World) : Host World :=
  let line := Console.trim text
  if line.isEmpty then host else host.line surroundings setup line

theorem numbered_hear
    (text : String) {host : Host World} (numbered : host.dispatcher.Numbered) :
    (host.hear surroundings setup text).dispatcher.Numbered ∧
      host.dispatcher.nextNumber ≤
        (host.hear surroundings setup text).dispatcher.nextNumber := by
  rw [hear]
  split
  · exact ⟨numbered, Nat.le_refl _⟩
  · rw [line]
    have kept := numbered.step (.line (Console.trim text))
    have grows := Dispatcher.nextNumber_le_line (Console.trim text) host.dispatcher
    generalize host.dispatcher.step (.line (Console.trim text)) = dispatcher at kept grows ⊢
    constructor
    · exact numbered_handleJob surroundings setup _ kept
    · rw [nextNumber_handleJob]
      exact grows

/-- The lines of an input are heard, up to the first one that is no text. -/
def hearAll (surroundings : Surroundings World) (setup : Setup) :
    List Bytes → Host World → Host World
  | [], host => host
  | line :: rest, host =>
      match decodeText? line with
      | some text => hearAll surroundings setup rest (host.hear surroundings setup text)
      | none => host

theorem serve_eq_hearAll (input : Bytes) (host : Host World) :
    Console.serve surroundings setup input host =
      host.hearAll surroundings setup (Console.rawLines input) := by
  rw [Console.serve, Console.lines]
  induction Console.rawLines input generalizing host with
  | nil => rfl
  | cons line rest ih =>
      rw [Console.decodeLines, hearAll]
      cases decodeText? line with
      | none => rfl
      | some text =>
          show _ = hearAll surroundings setup rest (hear surroundings setup text host)
          rw [List.map_cons, List.filter_cons, hear]
          by_cases blank : (Console.trim text).isEmpty
          · simpa [blank] using ih host
          · simpa [blank] using ih (host.line surroundings setup (Console.trim text))

end Host

namespace Process

/-- Hearing a line takes a step, and the job that the line may make takes two more. -/
theorem leads_hear
    (text : String) {host : Host World} (numbered : host.dispatcher.Numbered) :
    ∃ result, ∀ results : Nat → Except Refusal Json,
      (host.dispatcher.nextNumber < (host.hear surroundings setup text).dispatcher.nextNumber →
        results host.dispatcher.nextNumber = result) →
        ∀ process : Process, process.dispatcher = host.dispatcher.hear text →
          Leads results process
            (process.withDispatcher (host.hear surroundings setup text).dispatcher) := by
  rw [Host.hear, Dispatcher.hear]
  by_cases blank : (Console.trim text).isEmpty
  · simp only [blank, if_true]
    refine ⟨.error .parseError, fun results _ process same => ?_⟩
    rw [← same]
    exact .refl process
  · simp only [blank, Bool.false_eq_true, if_false, Host.line]
    generalize stepped : host.dispatcher.step (.line (Console.trim text)) = dispatcher
    have kept : dispatcher.Numbered := stepped ▸ numbered.step _
    rcases leads_handleJob surroundings setup host.dispatcher.nextNumber
      { host with dispatcher := dispatcher } with ⟨result, leads⟩
    refine ⟨result, fun results agrees process same => leads results ?_ process same⟩
    intro job found
    apply agrees
    rcases Dispatcher.job?_eq_some found with ⟨member, same⟩
    have used := (kept.step (.start host.dispatcher.nextNumber)).used job member
    rw [same, Dispatcher.step, Dispatcher.nextNumber_start] at used
    rw [Host.nextNumber_handleJob]
    exact used

/-- Hearing an input line by line is a run of a process. -/
theorem leads_hearAll
    (input : List Bytes) {host : Host World} (numbered : host.dispatcher.Numbered) :
    ∃ results : Nat → Except Refusal Json, ∀ other : Nat → Except Refusal Json,
      (∀ number, host.dispatcher.nextNumber ≤ number → other number = results number) →
        ∀ process : Process, process.reading = true → process.unread = input →
          process.dispatcher = host.dispatcher →
            ∃ last, Leads other process last ∧ last.reading = false ∧
              last.dispatcher = (host.hearAll surroundings setup input).dispatcher := by
  induction input generalizing host with
  | nil =>
      refine ⟨fun _ => .error .parseError, fun other _ process reads unread same => ?_⟩
      exact ⟨_, .single (.stop reads (by rw [unread, Console.decodeLines])), rfl, same⟩
  | cons line rest ih =>
      rw [Host.hearAll]
      cases decodes : decodeText? line with
      | none =>
          refine ⟨fun _ => .error .parseError, fun other _ process reads unread same => ?_⟩
          refine ⟨_, .single (.stop reads ?_), rfl, same⟩
          rw [unread, Console.decodeLines, decodes]
      | some text =>
          dsimp only
          rcases leads_hear surroundings setup text numbered with ⟨result, leads⟩
          rcases Host.numbered_hear surroundings setup text numbered with ⟨kept, grows⟩
          generalize host.hear surroundings setup text = heard at leads kept grows ⊢
          rcases ih kept with ⟨results, onward⟩
          refine ⟨fun number =>
            if number < heard.dispatcher.nextNumber then result else results number, ?_⟩
          intro other agrees process reads unread same
          have later : ∀ number, heard.dispatcher.nextNumber ≤ number →
              other number = results number := by
            intro number large
            exact (agrees number (Nat.le_trans grows large)).trans (if_neg (Nat.not_lt.2 large))
          have now : host.dispatcher.nextNumber < heard.dispatcher.nextNumber →
              other host.dispatcher.nextNumber = result := by
            intro made
            exact (agrees _ (Nat.le_refl _)).trans (if_pos made)
          let next : Process :=
            { process with unread := rest, dispatcher := process.dispatcher.hear text }
          have read : Leads other process next := .single (.hear reads unread decodes)
          have listened : next.dispatcher = host.dispatcher.hear text := by rw [← same]
          have handled : Leads other next (next.withDispatcher heard.dispatcher) :=
            leads other now next listened
          rcases onward other later (next.withDispatcher heard.dispatcher) reads rfl rfl with
            ⟨last, finished, ended, done⟩
          exact ⟨last, (read.trans handled).trans finished, ended, done⟩

end Process

/-- A host that serves an input makes a run of a process, which has read its input then. -/
theorem exists_leads_serve
    (input : Bytes) (world : World) :
    ∃ results process, Process.Leads results (.fresh (Console.rawLines input)) process ∧
      process.reading = false ∧
      process.dispatcher =
        (Console.serve surroundings setup input (.fresh world)).dispatcher := by
  have numbered : (Host.fresh world).dispatcher.Numbered := Dispatcher.numbered_empty
  rw [Host.serve_eq_hearAll]
  rcases Process.leads_hearAll surroundings setup (Console.rawLines input) numbered with
    ⟨results, leads⟩
  rcases leads results (fun _ _ => rfl) (.fresh (Console.rawLines input)) rfl rfl rfl with
    ⟨last, run, ended, done⟩
  exact ⟨results, last, run, ended, done⟩

/-- What a host has sent, and what the requests owe that have no result, is what its input asks
for. -/
theorem serve_answers
    (input : Bytes) (world : World) :
    let dispatcher := (Console.serve surroundings setup input (.fresh world)).dispatcher
    ∃ results, (dispatcher.sent ++ dispatcher.jobs.map (Job.response results)).Perm
      (due results 0 (Console.decodeLines (Console.rawLines input))) := by
  intro dispatcher
  rcases exists_leads_serve surroundings setup input world with
    ⟨results, process, ⟨steps, run⟩, ended, done⟩
  refine ⟨results, ?_⟩
  have answered := run.account (Process.sound_fresh _)
  rw [Process.account_fresh] at answered
  simpa [Process.account, Process.ahead, ended, Dispatcher.account, due, done] using answered

end

end FrameEval.Server
