import FrameEval.Proofs.Server.Jobs
import Mathlib

/-!
# The cancellation of requests

A notification cancels a request through the token of its job, and the job has a token from its
start to its end.  Which tokens are cancelled is therefore told by the history alone: those of
the jobs that ran when a notification named their ids.  A notification that is handled before
the job starts finds no token, and the job never learns of it.
-/

namespace FrameEval.Server

namespace Dispatcher

/-- At no time have two unfinished requests one id. -/
def KeepsIdsApart (happenings : List Happening) : Prop :=
  ∀ earlier, earlier <+: happenings → IdsApart (empty.run earlier)

theorem KeepsIdsApart.of_append
    {earlier later : List Happening} (apart : KeepsIdsApart (earlier ++ later)) :
    KeepsIdsApart earlier := by
  intro first before
  exact apart first (before.trans (List.prefix_append earlier later))

theorem keepsIdsApart_iff
    {happenings : List Happening} :
    KeepsIdsApart happenings ↔
      ∀ earlier ∈ happenings.inits, IdsApart (empty.run earlier) := by
  simp only [KeepsIdsApart, List.mem_inits]

theorem registered_run
    {happenings : List Happening} (apart : KeepsIdsApart happenings) :
    Registered (empty.run happenings) := by
  induction happenings using List.reverseRecOn with
  | nil => exact registered_empty
  | append_singleton earlier happening ih =>
      rw [run_concat]
      have before := ih apart.of_append
      have distinct := apart earlier (List.prefix_append earlier [happening])
      exact before.change distinct (step_change _ happening)

/-- After happenings a job runs under a token. -/
def RunsAfter
    (happenings : List Happening) (number : Nat) (request : Request) (token : Token) : Prop :=
  (empty.run happenings).job? number = some ⟨number, request, some token⟩

/-- In the course of happenings a job runs under a token. -/
def RunsUnder
    (happenings : List Happening) (number : Nat) (request : Request) (token : Token) : Prop :=
  ∃ earlier, earlier <+: happenings ∧ RunsAfter earlier number request token

/-- A notification names a request while its job runs under a token. -/
def NamedWhileRunning
    (happenings : List Happening) (number : Nat) (request : Request) (token : Token) : Prop :=
  ∃ earlier line later, happenings = earlier ++ .line line :: later ∧
    cancelledKey? line = some request.id.print ∧ RunsAfter earlier number request token

section

variable {happenings : List Happening} {happening : Happening} {number other : Nat}
  {request known : Request} {token : Token}

theorem NamedWhileRunning.runsUnder
    (named : NamedWhileRunning happenings number request token) :
    RunsUnder happenings number request token := by
  rcases named with ⟨earlier, line, later, rfl, -, runs⟩
  exact ⟨earlier, List.prefix_append earlier _, runs⟩

theorem not_runsUnder_nil : ¬ RunsUnder [] number request token := by
  rintro ⟨earlier, before, runs⟩
  rw [List.prefix_nil.1 before] at runs
  cases runs

theorem runsUnder_concat :
    RunsUnder (happenings ++ [happening]) number request token ↔
      RunsUnder happenings number request token ∨
        RunsAfter (happenings ++ [happening]) number request token := by
  constructor
  · rintro ⟨earlier, before, runs⟩
    rcases List.prefix_concat_iff.1 before with rfl | within
    · exact .inr runs
    · exact .inl ⟨earlier, within, runs⟩
  · rintro (⟨earlier, within, runs⟩ | runs)
    · exact ⟨earlier, within.trans (List.prefix_append happenings [happening]), runs⟩
    · exact ⟨_, List.prefix_rfl, runs⟩

theorem namedWhileRunning_concat :
    NamedWhileRunning (happenings ++ [happening]) number request token ↔
      NamedWhileRunning happenings number request token ∨
        ∃ line, happening = .line line ∧ cancelledKey? line = some request.id.print ∧
          RunsAfter happenings number request token := by
  constructor
  · rintro ⟨earlier, line, later, whole, names, runs⟩
    rcases List.eq_nil_or_concat later with rfl | ⟨rest, last, rfl⟩
    · rcases List.append_inj' whole rfl with ⟨rfl, same⟩
      exact .inr ⟨line, List.singleton_inj.1 same, names, runs⟩
    · rw [List.concat_eq_append, ← List.cons_append, ← List.append_assoc] at whole
      rcases List.append_inj' whole rfl with ⟨rfl, -⟩
      exact .inl ⟨earlier, line, rest, rfl, names, runs⟩
  · rintro (⟨earlier, line, later, rfl, names, runs⟩ | ⟨line, rfl, names, runs⟩)
    · exact ⟨earlier, line, later ++ [happening], by simp, names, runs⟩
    · exact ⟨happenings, line, [], rfl, names, runs⟩

/-! ## Tokens are given out once -/

/-- A token under which a job runs was given to it before, or is the next one. -/
theorem RunsAfter.of_concat
    (apart : KeepsIdsApart (happenings ++ [happening]))
    (runs : RunsAfter (happenings ++ [happening]) number request token) :
    RunsAfter happenings number request token ∨
      happening = .start number ∧ token = (empty.run happenings).inFlight.nextToken := by
  have registered := registered_run apart.of_append
  rw [RunsAfter, run_concat] at runs
  have change := step_change (empty.run happenings) happening
  rcases change.running (job?_eq_some runs).1 rfl with old | ⟨starts, next, -⟩
  · exact .inl (registered.numbered.job?_eq_some_iff.2 ⟨old, rfl⟩)
  · exact .inr ⟨starts, next⟩

/-- Only tokens that were given out are used. -/
theorem RunsUnder.token_lt
    (apart : KeepsIdsApart happenings) (runs : RunsUnder happenings number request token) :
    token < (empty.run happenings).inFlight.nextToken := by
  induction happenings using List.reverseRecOn with
  | nil => exact (not_runsUnder_nil runs).elim
  | append_singleton earlier happening ih =>
      rcases runsUnder_concat.1 runs with old | now
      · rw [run_concat]
        exact Nat.lt_of_lt_of_le (ih apart.of_append old) (step_change _ happening).nextToken_le
      · exact (registered_run apart).given _ (job?_eq_some now).1 token rfl

/-- One job at most runs under a token. -/
theorem RunsUnder.unique
    (apart : KeepsIdsApart happenings) (runs : RunsUnder happenings number request token)
    (runsToo : RunsUnder happenings other known token) : number = other ∧ request = known := by
  induction happenings using List.reverseRecOn with
  | nil => exact (not_runsUnder_nil runs).elim
  | append_singleton earlier happening ih =>
      have split : ∀ {number request}, RunsUnder (earlier ++ [happening]) number request token →
          RunsUnder earlier number request token ∨
            RunsAfter (earlier ++ [happening]) number request token ∧
              happening = .start number ∧
              token = (empty.run earlier).inFlight.nextToken := by
        intro number request under
        rcases runsUnder_concat.1 under with old | now
        · exact .inl old
        · rcases now.of_concat apart with before | new
          · exact .inl ⟨earlier, List.prefix_rfl, before⟩
          · exact .inr ⟨now, new⟩
      have fresh : ∀ {number request}, RunsUnder earlier number request token →
          token ≠ (empty.run earlier).inFlight.nextToken := by
        intro number request under
        exact Nat.ne_of_lt (under.token_lt apart.of_append)
      rcases split runs with old | ⟨now, starts, next⟩
      · rcases split runsToo with oldToo | ⟨-, -, next⟩
        · exact ih apart.of_append old oldToo
        · exact (fresh old next).elim
      · rcases split runsToo with oldToo | ⟨nowToo, startsToo, -⟩
        · exact (fresh oldToo next).elim
        · rw [starts, Happening.start.injEq] at startsToo
          subst startsToo
          rw [RunsAfter, nowToo] at now
          cases now
          exact ⟨rfl, rfl⟩

/-! ## Which tokens are cancelled -/

/-- The cancelled tokens are those of the jobs that were named while they ran. -/
theorem mem_cancelled_iff
    (apart : KeepsIdsApart happenings) :
    token ∈ (empty.run happenings).inFlight.cancelled ↔
      ∃ number request, NamedWhileRunning happenings number request token := by
  induction happenings using List.reverseRecOn with
  | nil => simp [NamedWhileRunning, empty, InFlight.empty]
  | append_singleton earlier happening ih =>
      have registered := registered_run apart.of_append
      rw [run_concat, (step_change _ happening).cancelled, ih apart.of_append]
      simp only [namedWhileRunning_concat, exists_or]
      apply or_congr_right
      constructor
      · rintro ⟨line, key, rfl, names, found⟩
        rcases (registered.entry key token).1 found with ⟨job, member, rfl, runs⟩
        refine ⟨job.number, job.request, line, rfl, names, ?_⟩
        rw [RunsAfter, registered.numbered.job?_eq_some_iff, ← runs]
        exact ⟨member, rfl⟩
      · rintro ⟨number, request, line, rfl, names, runs⟩
        refine ⟨line, request.id.print, rfl, names, ?_⟩
        exact (registered.entry _ token).2 ⟨_, (job?_eq_some runs).1, rfl, rfl⟩

/-- The token under which a request runs is cancelled, and stays so, just if a notification
names the request between the start of its job and its end.  A notification that is handled
before the start is lost. -/
theorem cancelled_iff_named_while_running
    (apart : KeepsIdsApart happenings) (runs : RunsUnder happenings number request token) :
    (empty.run happenings).inFlight.isCancelled token = true ↔
      NamedWhileRunning happenings number request token := by
  rw [InFlight.isCancelled, List.contains_iff_mem, mem_cancelled_iff apart]
  constructor
  · rintro ⟨other, known, named⟩
    rcases runs.unique apart named.runsUnder with ⟨rfl, rfl⟩
    exact named
  · intro named
    exact ⟨number, request, named⟩

end

/-! ## A notification in time, and one too early -/

/-- An id that is a number. -/
def numberId : Json := .number (.natural 7)

/-- The same digit as a text is another id. -/
def textId : Json := .string "7"

def numberLine : String :=
  "\x7b\"jsonrpc\":\"2.0\",\"id\":7,\"method\":\"tools/list\"\x7d"

def textLine : String :=
  "\x7b\"jsonrpc\":\"2.0\",\"id\":\"7\",\"method\":\"tools/list\"\x7d"

/-- The number is cancelled. -/
def cancelLine : String :=
  "\x7b\"jsonrpc\":\"2.0\",\"method\":\"notifications/cancelled\"," ++
    "\"params\":\x7b\"requestId\":7\x7d\x7d"

/-- A request for the tools. -/
def listing (id : Json) : Request := ⟨id, "tools/list", none⟩

def cancellation : Notification :=
  ⟨"notifications/cancelled", some (.object [("requestId", numberId)])⟩

@[simp]
theorem ofLine_numberLine : Message.ofLine numberLine = .request (listing numberId) := by
  cbv

@[simp]
theorem ofLine_textLine : Message.ofLine textLine = .request (listing textId) := by
  cbv

@[simp]
theorem ofLine_cancelLine : Message.ofLine cancelLine = .notification cancellation := by
  cbv

@[simp]
theorem cancelledId?_cancellation : cancelledId? cancellation = some numberId := by
  cbv

theorem cancelledKey?_cancelLine : cancelledKey? cancelLine = some numberId.print := by
  simp [cancelledKey?]

theorem print_numberId_ne_print_textId : numberId.print ≠ textId.print := by
  have number : numberId.print = "7" := by cbv
  have text : textId.print = "\"7\"" := by cbv
  rw [number, text]
  decide

/-- Two requests run when one of them is cancelled. -/
def timely : List Happening :=
  [.line numberLine, .line textLine, .start 0, .start 1, .line cancelLine]

theorem keepsIdsApart_timely : KeepsIdsApart timely := by
  rw [keepsIdsApart_iff]
  simp [timely, IdsApart, run, step, message, empty, start, job?, listing, Job.key,
    print_numberId_ne_print_textId]

theorem runsAfter_starts :
    RunsAfter [.line numberLine, .line textLine, .start 0, .start 1] 0 (listing numberId) 0 := by
  simp [RunsAfter, run, step, message, empty, start, job?, InFlight.start, InFlight.empty]

theorem running_request_is_cancelled :
    KeepsIdsApart timely ∧ RunsUnder timely 0 (listing numberId) 0 ∧
      (empty.run timely).inFlight.isCancelled 0 = true := by
  have named : NamedWhileRunning timely 0 (listing numberId) 0 :=
    ⟨[.line numberLine, .line textLine, .start 0, .start 1], cancelLine, [], rfl,
      cancelledKey?_cancelLine, runsAfter_starts⟩
  have runs := named.runsUnder
  have cancelled := (cancelled_iff_named_while_running keepsIdsApart_timely runs).2 named
  exact ⟨keepsIdsApart_timely, runs, cancelled⟩

/-- A notification that names an unfinished request cancels the token under which the request
runs, whenever it starts. -/
def Heeds (happenings : List Happening) : Prop :=
  ∀ earlier line later, earlier ++ .line line :: later <+: happenings →
    ∀ job ∈ (empty.run earlier).jobs, cancelledKey? line = some job.key →
      ∀ token,
        RunsAfter (earlier ++ .line line :: later) job.number job.request token →
          (empty.run (earlier ++ .line line :: later)).inFlight.isCancelled token = true

/-- A request is cancelled before it starts. -/
def early : List Happening :=
  [.line numberLine, .line cancelLine, .start 0]

theorem run_early :
    empty.run early =
      { inFlight := (InFlight.empty.start numberId).2
        jobs := [⟨0, listing numberId, some 0⟩]
        nextNumber := 1
        sent := [] } := by
  simp [early, run, step, message, empty, start, job?, listing, InFlight.start, InFlight.empty,
    InFlight.cancel, InFlight.token?]

theorem early_notification_is_lost : KeepsIdsApart early ∧ ¬ Heeds early := by
  constructor
  · rw [keepsIdsApart_iff]
    simp [early, IdsApart, run, step, message, empty, start, job?]
  · intro heeds
    have member : ⟨0, listing numberId, none⟩ ∈ (empty.run [.line numberLine]).jobs := by
      simp [run, step, message, empty]
    have runs : RunsAfter early 0 (listing numberId) 0 := by
      simp [RunsAfter, run_early, job?]
    have cancelled : (empty.run early).inFlight.isCancelled 0 = true :=
      heeds [.line numberLine] cancelLine [.start 0] List.prefix_rfl _ member
        cancelledKey?_cancelLine 0 runs
    rw [run_early] at cancelled
    cases cancelled

end Dispatcher

end FrameEval.Server
