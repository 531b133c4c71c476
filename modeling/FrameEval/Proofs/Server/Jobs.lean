import FrameEval.Server.Dispatcher
import Mathlib.Data.List.Nodup

/-!
# The jobs of a dispatch

Lines are read, jobs start and jobs end in any order.  `Change` says once what a single
happening does to a dispatch and under which condition, and the invariants are proved by cases
on it: jobs are numbered in the order of their requests, tokens are given out once, and, while
the ids of unfinished requests differ, the table of tokens holds exactly the tokens of the jobs
that run.
-/

namespace FrameEval.Server

/-- The text by which the id of a job is told apart from others. -/
def Job.key (job : Job) : String :=
  job.request.id.print

/-- The text of the id that a line cancels. -/
def cancelledKey? (line : String) : Option String :=
  match Message.ofLine line with
  | .notification notification => (cancelledId? notification).map Json.print
  | _ => none

namespace Dispatcher

/-- The refusal of a line that is answered at once. -/
def refusal? (line : String) : Option Refusal :=
  match Message.ofLine line with
  | .unparsable => some .parseError
  | .invalidRequest => some .invalidRequest
  | _ => none

theorem cancelledKey?_of_refusal
    {line : String} {refusal : Refusal} (refused : refusal? line = some refusal) :
    cancelledKey? line = none := by
  rw [refusal?] at refused
  rw [cancelledKey?]
  cases reads : Message.ofLine line with
  | notification notification =>
      rw [reads] at refused
      cases refused
  | _ => rfl

/-- A job gets its token. -/
def begun (number : Nat) (token : Token) (job : Job) : Job :=
  if job.number = number then { job with token := some token } else job

@[simp]
theorem number_begun (number : Nat) (token : Token) (job : Job) :
    (begun number token job).number = job.number := by
  rw [begun]
  split <;> rfl

@[simp]
theorem request_begun (number : Nat) (token : Token) (job : Job) :
    (begun number token job).request = job.request := by
  rw [begun]
  split <;> rfl

@[simp]
theorem key_begun (number : Nat) (token : Token) (job : Job) :
    (begun number token job).key = job.key := by
  rw [Job.key, request_begun, Job.key]

/-- What a happening can do to a dispatch. -/
inductive Change (dispatcher : Dispatcher) : Happening → Dispatcher → Prop where
  | refuse
      {line : String} {refusal : Refusal} (refused : refusal? line = some refusal) :
      Change dispatcher (.line line) (dispatcher.send (.anonymous refusal))
  | cancel
      {line : String} {id : Json} (names : cancelledKey? line = some id.print) :
      Change dispatcher (.line line)
        { dispatcher with inFlight := dispatcher.inFlight.cancel id }
  | accept
      {line : String} {request : Request} (reads : Message.ofLine line = .request request) :
      Change dispatcher (.line line)
        { dispatcher with
          jobs := dispatcher.jobs ++ [⟨dispatcher.nextNumber, request, none⟩]
          nextNumber := dispatcher.nextNumber + 1 }
  | start
      {job : Job} (found : dispatcher.job? job.number = some job) (waits : job.token = none) :
      Change dispatcher (.start job.number)
        { dispatcher with
          inFlight := (dispatcher.inFlight.start job.request.id).2
          jobs := dispatcher.jobs.map (begun job.number dispatcher.inFlight.nextToken) }
  | finish
      {job : Job} {token : Token} {result : Except Refusal Json}
      (found : dispatcher.job? job.number = some job) (runs : job.token = some token) :
      Change dispatcher (.finish job.number result)
        { dispatcher with
          inFlight := dispatcher.inFlight.finish job.request.id
          jobs := dispatcher.jobs.filter fun other => other.number ≠ job.number
          sent := dispatcher.sent ++ [⟨job.request.id, result⟩] }
  | idle
      {happening : Happening}
      (names : ∀ line, happening = .line line → cancelledKey? line = none) :
      Change dispatcher happening dispatcher

theorem job?_eq_some
    {dispatcher : Dispatcher} {number : Nat} {job : Job}
    (found : dispatcher.job? number = some job) : job ∈ dispatcher.jobs ∧ job.number = number := by
  constructor
  · exact List.mem_of_find?_eq_some found
  · simpa using List.find?_some found

theorem change_line
    (dispatcher : Dispatcher) (line : String) :
    Change dispatcher (.line line) (dispatcher.message (.ofLine line)) := by
  cases reads : Message.ofLine line with
  | unparsable =>
      apply Change.refuse
      rw [refusal?, reads]
  | invalidRequest =>
      apply Change.refuse
      rw [refusal?, reads]
  | request request => exact .accept reads
  | ignored =>
      apply Change.idle
      rintro other ⟨⟩
      rw [cancelledKey?, reads]
  | notification notification =>
      rw [message]
      cases names : cancelledId? notification with
      | none =>
          apply Change.idle
          rintro other ⟨⟩
          simp only [cancelledKey?, reads, names, Option.map_none]
      | some id =>
          apply Change.cancel
          simp only [cancelledKey?, reads, names, Option.map_some]

/-- A job that waits starts. -/
theorem step_start
    {dispatcher : Dispatcher} {number : Nat} {job : Job}
    (found : dispatcher.job? number = some job) (waits : job.token = none) :
    dispatcher.step (.start number) =
      { dispatcher with
        inFlight := (dispatcher.inFlight.start job.request.id).2
        jobs := dispatcher.jobs.map (begun number dispatcher.inFlight.nextToken) } := by
  rcases job with ⟨known, request, token⟩
  cases waits
  rw [step, Dispatcher.start, found]
  rfl

/-- A job that runs is over. -/
theorem step_finish
    {dispatcher : Dispatcher} {number : Nat} {job : Job} {token : Token}
    (found : dispatcher.job? number = some job) (runs : job.token = some token)
    (result : Except Refusal Json) :
    dispatcher.step (.finish number result) =
      { dispatcher with
        inFlight := dispatcher.inFlight.finish job.request.id
        jobs := dispatcher.jobs.filter fun other => other.number ≠ number
        sent := dispatcher.sent ++ [⟨job.request.id, result⟩] } := by
  rcases job with ⟨known, request, given⟩
  cases runs
  rw [step, Dispatcher.finish, found]
  rfl

/-- Every step of a dispatch is one of the described changes. -/
theorem step_change
    (dispatcher : Dispatcher) (happening : Happening) :
    Change dispatcher happening (dispatcher.step happening) := by
  cases happening with
  | line line => exact change_line dispatcher line
  | start number =>
      rw [step, Dispatcher.start]
      split
      · next known request found =>
          rcases job?_eq_some found with ⟨-, same⟩
          cases same
          exact .start found rfl
      · exact .idle (by simp)
  | finish number result =>
      rw [step, Dispatcher.finish]
      split
      · next known request token found =>
          rcases job?_eq_some found with ⟨-, same⟩
          cases same
          exact .finish found rfl
      · exact .idle (by simp)

/-! ## Runs -/

@[simp]
theorem run_nil (dispatcher : Dispatcher) : dispatcher.run [] = dispatcher := rfl

@[simp]
theorem run_concat
    (dispatcher : Dispatcher) (happenings : List Happening) (happening : Happening) :
    dispatcher.run (happenings ++ [happening]) = (dispatcher.run happenings).step happening := by
  rw [run, run, List.foldl_append, List.foldl_cons, List.foldl_nil]

/-! ## Numbers -/

/-- Jobs are numbered in the order of their requests. -/
structure Numbered (dispatcher : Dispatcher) : Prop where
  distinct : (dispatcher.jobs.map Job.number).Nodup
  used : ∀ job ∈ dispatcher.jobs, job.number < dispatcher.nextNumber

theorem numbered_empty : Numbered empty where
  distinct := List.nodup_nil
  used := by simp [empty]

theorem map_number_begun
    (number : Nat) (token : Token) (jobs : List Job) :
    (jobs.map (begun number token)).map Job.number = jobs.map Job.number := by
  rw [List.map_map]
  apply List.map_congr_left
  intro job member
  exact number_begun number token job

theorem Numbered.change
    {before after : Dispatcher} {happening : Happening} (numbered : Numbered before)
    (change : Change before happening after) : Numbered after := by
  cases change with
  | refuse refused => exact ⟨numbered.distinct, numbered.used⟩
  | cancel names => exact ⟨numbered.distinct, numbered.used⟩
  | idle names => exact numbered
  | accept reads =>
      constructor
      · rw [List.map_append]
        apply List.Nodup.append numbered.distinct (List.nodup_singleton _)
        intro number old new
        rcases List.mem_map.1 old with ⟨job, member, rfl⟩
        have used := numbered.used job member
        have same : job.number = before.nextNumber := by simpa using new
        omega
      · intro job member
        rcases List.mem_append.1 member with old | new
        · exact Nat.lt_succ_of_lt (numbered.used job old)
        · rw [List.mem_singleton.1 new]
          exact Nat.lt_succ_self _
  | start found waits =>
      constructor
      · rw [map_number_begun]
        exact numbered.distinct
      · intro job member
        rcases List.mem_map.1 member with ⟨old, oldMember, rfl⟩
        rw [number_begun]
        exact numbered.used old oldMember
  | finish found runs =>
      constructor
      · exact numbered.distinct.sublist (List.filter_sublist.map _)
      · intro job member
        exact numbered.used job ((List.mem_filter.1 member).1)

theorem Numbered.step
    {dispatcher : Dispatcher} (numbered : Numbered dispatcher) (happening : Happening) :
    Numbered (dispatcher.step happening) :=
  numbered.change (step_change dispatcher happening)

theorem Numbered.eq_of_number
    {dispatcher : Dispatcher} (numbered : Numbered dispatcher) {first second : Job}
    (one : first ∈ dispatcher.jobs) (other : second ∈ dispatcher.jobs)
    (same : first.number = second.number) : first = second :=
  List.inj_on_of_nodup_map numbered.distinct one other same

/-- A job is found by its number. -/
theorem Numbered.job?_eq_some_iff
    {dispatcher : Dispatcher} (numbered : Numbered dispatcher) {number : Nat} {job : Job} :
    dispatcher.job? number = some job ↔ job ∈ dispatcher.jobs ∧ job.number = number := by
  constructor
  · exact job?_eq_some
  · rintro ⟨member, rfl⟩
    cases found : dispatcher.job? job.number with
    | none => simpa using List.find?_eq_none.1 found job member
    | some other =>
        rcases job?_eq_some found with ⟨otherMember, same⟩
        rw [numbered.eq_of_number otherMember member same]

/-- The jobs without the one of a given number. -/
def others (number : Nat) (jobs : List Job) : List Job :=
  jobs.filter fun job => job.number ≠ number

/-- A job stands alone under its number. -/
theorem Numbered.perm_others
    {dispatcher : Dispatcher} (numbered : Numbered dispatcher) {number : Nat} {job : Job}
    (found : dispatcher.job? number = some job) :
    dispatcher.jobs.Perm (job :: others number dispatcher.jobs) := by
  rcases job?_eq_some found with ⟨member, rfl⟩
  rcases List.append_of_mem member with ⟨earlier, later, whole⟩
  have distinct := numbered.distinct
  rw [whole, List.map_append, List.map_cons] at distinct
  have apart := (List.nodup_middle.1 distinct).notMem
  rw [← List.map_append, List.mem_map] at apart
  have kept : others job.number (earlier ++ later) = earlier ++ later := by
    apply List.filter_eq_self.2
    intro other among
    apply decide_eq_true
    intro same
    exact apart ⟨other, among, same⟩
  have left : others job.number dispatcher.jobs = earlier ++ later := by
    rw [← kept, whole]
    simp [others]
  rw [left, whole]
  exact List.perm_middle

/-- Only the job that starts is changed. -/
theorem Numbered.perm_map_begun
    {dispatcher : Dispatcher} (numbered : Numbered dispatcher) {number : Nat} {job : Job}
    (found : dispatcher.job? number = some job) (token : Token) :
    (dispatcher.jobs.map (begun number token)).Perm
      ({ job with token := some token } :: others number dispatcher.jobs) := by
  have kept : (others number dispatcher.jobs).map (begun number token) =
      others number dispatcher.jobs := by
    apply (List.map_congr_left ?_).trans (List.map_id _)
    intro other among
    have differs := of_decide_eq_true (List.mem_filter.1 among).2
    rw [begun, if_neg differs, id]
  have started : begun number token job = { job with token := some token } := by
    rw [begun, if_pos (job?_eq_some found).2]
  rw [← started, ← kept]
  exact (numbered.perm_others found).map _

/-! ## Tokens -/

/-- No two unfinished requests have one id. -/
def IdsApart (dispatcher : Dispatcher) : Prop :=
  (dispatcher.jobs.map Job.key).Nodup

/-- The table of tokens belongs to the jobs that run. -/
structure Registered (dispatcher : Dispatcher) : Prop where
  numbered : Numbered dispatcher
  /-- A key has the token of the running job with that key. -/
  entry : ∀ key token, dispatcher.inFlight.tokens.find? key = some token ↔
    ∃ job ∈ dispatcher.jobs, job.key = key ∧ job.token = some token
  given : ∀ job ∈ dispatcher.jobs, ∀ token, job.token = some token →
    token < dispatcher.inFlight.nextToken

theorem registered_empty : Registered empty where
  numbered := numbered_empty
  entry := by simp [empty, InFlight.empty]
  given := by simp [empty]

/-- A running job ran before, or it has just been started under a token of its own. -/
theorem Change.running
    {before after : Dispatcher} {happening : Happening}
    (change : Change before happening after) {job : Job} {token : Token}
    (member : job ∈ after.jobs) (runs : job.token = some token) :
    job ∈ before.jobs ∨
      happening = .start job.number ∧ token = before.inFlight.nextToken ∧
        after.inFlight.nextToken = token + 1 := by
  cases change with
  | refuse refused => exact .inl member
  | cancel names => exact .inl member
  | idle names => exact .inl member
  | accept reads =>
      rcases List.mem_append.1 member with old | new
      · exact .inl old
      · rw [List.mem_singleton.1 new] at runs
        cases runs
  | @start started found waits =>
      rcases List.mem_map.1 member with ⟨old, oldMember, rfl⟩
      by_cases same : old.number = started.number
      · simp only [begun, same, if_true, Option.some.injEq] at runs
        right
        rw [number_begun, same, ← runs]
        exact ⟨rfl, rfl, rfl⟩
      · left
        rw [begun, if_neg same]
        exact oldMember
  | finish found runs => exact .inl (List.mem_filter.1 member).1

theorem Change.nextToken_le
    {before after : Dispatcher} {happening : Happening}
    (change : Change before happening after) :
    before.inFlight.nextToken ≤ after.inFlight.nextToken := by
  cases change with
  | cancel names =>
      dsimp only
      rw [InFlight.cancel]
      split <;> exact Nat.le_refl _
  | start found waits => exact Nat.le_succ _
  | _ => exact Nat.le_refl _

/-- Only a cancellation adds to the cancelled tokens. -/
theorem Change.cancelled
    {before after : Dispatcher} {happening : Happening}
    (change : Change before happening after) (token : Token) :
    token ∈ after.inFlight.cancelled ↔
      token ∈ before.inFlight.cancelled ∨
        ∃ line key, happening = .line line ∧ cancelledKey? line = some key ∧
          before.inFlight.tokens.find? key = some token := by
  cases change with
  | @cancel line id names =>
      dsimp only
      simp only [Happening.line.injEq, InFlight.cancel, InFlight.token?]
      cases found : before.inFlight.tokens.find? id.print with
      | none => simp [names, found]
      | some known => simp [names, found, or_comm, eq_comm]
  | @refuse line refusal refused =>
      have silent := cancelledKey?_of_refusal refused
      simp [send, silent]
  | @accept line request reads =>
      have silent : cancelledKey? line = none := by rw [cancelledKey?, reads]
      simp [silent]
  | start found waits => simp [InFlight.start]
  | finish found runs => simp [InFlight.finish]
  | idle names =>
      constructor
      · exact .inl
      · rintro (old | ⟨line, key, rfl, named, -⟩)
        · exact old
        · rw [names line rfl] at named
          cases named

/-- Two unfinished jobs of one key are the same. -/
theorem IdsApart.eq_of_key
    {dispatcher : Dispatcher} (apart : IdsApart dispatcher) {first second : Job}
    (one : first ∈ dispatcher.jobs) (other : second ∈ dispatcher.jobs)
    (same : first.key = second.key) : first = second :=
  List.inj_on_of_nodup_map apart one other same

/-- The key of a job that starts gets its token, and the others keep theirs. -/
theorem Registered.entry_start
    {dispatcher : Dispatcher} (registered : Registered dispatcher)
    (apart : IdsApart dispatcher) {started : Job} (member : started ∈ dispatcher.jobs)
    (key : String) (token : Token) :
    (dispatcher.inFlight.start started.request.id).2.tokens.find? key = some token ↔
      ∃ job ∈ dispatcher.jobs.map (begun started.number dispatcher.inFlight.nextToken),
        job.key = key ∧ job.token = some token := by
  dsimp only [InFlight.start]
  by_cases same : key = started.request.id.print
  · rw [same, Table.find?_insert_self]
    constructor
    · rintro ⟨⟩
      refine ⟨begun started.number dispatcher.inFlight.nextToken started, ?_, ?_, ?_⟩
      · exact List.mem_map_of_mem member
      · exact key_begun _ _ _
      · rw [begun, if_pos rfl]
    · rintro ⟨job, jobMember, keyed, runs⟩
      rcases List.mem_map.1 jobMember with ⟨old, oldMember, rfl⟩
      rw [key_begun] at keyed
      rw [apart.eq_of_key oldMember member keyed, begun, if_pos rfl] at runs
      exact runs
  · rw [Table.find?_insert_ne _ _ same, registered.entry]
    have other : ∀ job ∈ dispatcher.jobs, job.key = key → job.number ≠ started.number := by
      intro job jobMember keyed number
      apply same
      rw [← keyed, registered.numbered.eq_of_number jobMember member number, Job.key]
    constructor
    · rintro ⟨job, jobMember, keyed, runs⟩
      refine ⟨job, List.mem_map.2 ⟨job, jobMember, ?_⟩, keyed, runs⟩
      rw [begun, if_neg (other job jobMember keyed)]
    · rintro ⟨job, jobMember, keyed, runs⟩
      rcases List.mem_map.1 jobMember with ⟨old, oldMember, rfl⟩
      rw [key_begun] at keyed
      rw [begun, if_neg (other old oldMember keyed)] at runs
      exact ⟨old, oldMember, keyed, runs⟩

/-- The key of a job that is over has no token any more, and the others keep theirs. -/
theorem Registered.entry_finish
    {dispatcher : Dispatcher} (registered : Registered dispatcher)
    (apart : IdsApart dispatcher) {finished : Job} (member : finished ∈ dispatcher.jobs)
    (key : String) (token : Token) :
    (dispatcher.inFlight.finish finished.request.id).tokens.find? key = some token ↔
      ∃ job ∈ dispatcher.jobs.filter fun other => other.number ≠ finished.number,
        job.key = key ∧ job.token = some token := by
  dsimp only [InFlight.finish]
  by_cases same : key = finished.request.id.print
  · rw [same, Table.find?_erase_self]
    constructor
    · intro absent
      cases absent
    · rintro ⟨job, jobMember, keyed, -⟩
      rcases List.mem_filter.1 jobMember with ⟨old, differs⟩
      rw [apart.eq_of_key old member keyed] at differs
      simp at differs
  · rw [Table.find?_erase_ne _ same, registered.entry]
    constructor
    · rintro ⟨job, jobMember, keyed, runs⟩
      refine ⟨job, List.mem_filter.2 ⟨jobMember, ?_⟩, keyed, runs⟩
      rw [decide_eq_true_iff]
      intro number
      apply same
      rw [← keyed, registered.numbered.eq_of_number jobMember member number, Job.key]
    · rintro ⟨job, jobMember, keyed, runs⟩
      exact ⟨job, (List.mem_filter.1 jobMember).1, keyed, runs⟩

/-- As long as the ids of unfinished requests differ, the table belongs to the running jobs. -/
theorem Registered.change
    {before after : Dispatcher} {happening : Happening} (registered : Registered before)
    (apart : IdsApart before) (change : Change before happening after) : Registered after := by
  have given : ∀ job ∈ after.jobs, ∀ token, job.token = some token →
      token < after.inFlight.nextToken := by
    intro job member token runs
    rcases change.running member runs with old | ⟨-, -, next⟩
    · exact Nat.lt_of_lt_of_le (registered.given job old token runs) change.nextToken_le
    · rw [next]
      exact Nat.lt_succ_self token
  refine ⟨registered.numbered.change change, ?_, given⟩
  intro key token
  cases change with
  | refuse refused => exact registered.entry key token
  | cancel names =>
      dsimp only
      rw [InFlight.cancel]
      split <;> exact registered.entry key token
  | idle names => exact registered.entry key token
  | accept reads =>
      rw [registered.entry]
      simp
  | start found waits => exact registered.entry_start apart (job?_eq_some found).1 key token
  | finish found runs => exact registered.entry_finish apart (job?_eq_some found).1 key token

end Dispatcher

end FrameEval.Server
