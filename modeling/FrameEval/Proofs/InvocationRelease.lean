import FrameEval.Proofs.Link.Endings
import FrameEval.Proofs.Remote.ScopedCalls

/-!
# The release of a thread

An errand that makes an invocation marks its thread in a table that all callers share.  Whatever
comes back, and if nothing does, the table is in the end exactly what it was before.  The thread
is marked as long as the errand waits for the reply of the invocation, and not any more when it
asks what type a returned array has.
-/

namespace FrameEval

open Wire

namespace Table

variable {Key Value : Type} [DecidableEq Key] {table : Table Key Value} {key : Key}

theorem notMem_of_find?_eq_none
    (absent : table.find? key = none) : key ∉ table.bindings.map Prod.fst := by
  intro bound
  rcases List.mem_map.1 bound with ⟨binding, member, rfl⟩
  rw [find?, Option.map_eq_none_iff, List.find?_eq_none] at absent
  exact absent binding member (decide_eq_true rfl)

theorem mem_of_find?_eq_some
    {value : Value} (found : table.find? key = some value) : (key, value) ∈ table.bindings := by
  rw [find?, Option.map_eq_some_iff] at found
  rcases found with ⟨⟨other, stored⟩, first, rfl⟩
  have same : other = key := by simpa using List.find?_some first
  rw [← same]
  exact List.mem_of_find?_eq_some first

/-- A new binding that is removed leaves nothing behind. -/
theorem erase_insert
    (absent : table.find? key = none) (value : Value) :
    (table.insert key value).erase key = table := by
  have unbound := notMem_of_find?_eq_none absent
  have others : ∀ binding ∈ table.bindings, decide (binding.1 ≠ key) = true := by
    rintro binding member
    refine decide_eq_true fun same => unbound ?_
    exact List.mem_map.2 ⟨binding, member, same⟩
  apply Table.ext
  rw [insert, dif_neg unbound]
  show (table.bindings ++ [(key, value)]).filter _ = table.bindings
  rw [List.filter_append, List.filter_eq_self.2 others]
  simp

theorem bindings_insert
    (bound : key ∈ table.bindings.map Prod.fst) (value : Value) :
    (table.insert key value).bindings = rebind key value table.bindings := by
  rw [insert, dif_pos bound]

/-- A value that was replaced can be put back. -/
theorem insert_insert
    {value : Value} (found : table.find? key = some value) (other : Value) :
    (table.insert key other).insert key value = table := by
  have stored := mem_of_find?_eq_some found
  have bound : key ∈ table.bindings.map Prod.fst := List.mem_map_of_mem stored
  have again : key ∈ (table.insert key other).bindings.map Prod.fst := by
    rw [bindings_insert bound, map_fst_rebind]
    exact bound
  apply Table.ext
  rw [bindings_insert again, bindings_insert bound, rebind, rebind, List.map_map]
  refine (List.map_congr_left fun binding member => ?_).trans (List.map_id _)
  by_cases same : binding.1 = key
  · rw [List.inj_on_of_nodup_map table.distinct member stored same]
    simp
  · simp [same]

end Table

namespace Link.InvokingThreads

variable {threads : InvokingThreads} {thread : ThreadId}

/-- What is entered and left again is as it was. -/
theorem leave_enter
    (positive : threads.counts.find? thread ≠ some 0) :
    (threads.enter thread).leave thread = threads := by
  rw [enter, leave, Table.find?_insert_self]
  cases found : threads.counts.find? thread with
  | none => exact congrArg InvokingThreads.mk (Table.erase_insert found _)
  | some count =>
      have marked : ¬ count + 1 ≤ 1 := by
        rintro few
        obtain rfl : count = 0 := by omega
        exact positive found
      show (if count + 1 ≤ 1 then _ else _) = threads
      rw [if_neg marked]
      exact congrArg InvokingThreads.mk (Table.insert_insert found _)

theorem contains_enter : (threads.enter thread).contains thread = true := by
  rw [enter, contains, Table.contains, Table.find?_insert_self]
  rfl

end Link.InvokingThreads

namespace Link

/-- Only who enters and leaves scopes changes the marks. -/
theorem Switchboard.Change.invoking
    {board after : Switchboard} {happening : Happening} {effects : List Effect}
    (change : Change board happening after effects) (enters : ∀ thread, happening ≠ .enter thread)
    (leaves : ∀ thread, happening ≠ .leave thread) : after.invoking = board.invoking := by
  cases change with
  | enter thread => exact absurd rfl (enters thread)
  | leave thread => exact absurd rfl (leaves thread)
  | _ => rfl

namespace Traffic

variable {α : Type} {thread : ThreadId} {prior : InvokingThreads} {traffic : Traffic α}

/-- The errand holds the scopes that it should, and the table has them besides what was in it. -/
structure Marked (thread : ThreadId) (prior : InvokingThreads) (traffic : Traffic α) : Prop where
  orderly : Remote.Orderly thread traffic.held traffic.rest
  invoking : traffic.board.invoking = traffic.held.foldr InvokingThreads.enter prior

/-- Only the board, the rest of the errand and its scopes matter. -/
theorem Marked.of_eq
    (marked : Marked thread prior traffic) {later : Traffic α}
    (board : later.board = traffic.board) (rest : later.rest = traffic.rest)
    (held : later.held = traffic.held) : Marked thread prior later where
  orderly := by
    rw [rest, held]
    exact marked.orderly
  invoking := by
    rw [board, held]
    exact marked.invoking

theorem orderly_answer
    (orderly : Remote.Orderly thread traffic.held traffic.rest) (effects : List Effect) :
    Remote.Orderly thread (traffic.answer effects).held (traffic.answer effects).rest := by
  rw [held_answer, answer]
  split
  · next id order next waits asks =>
      split
      · next result told =>
          rw [asks] at orderly
          exact orderly.told result
      · exact orderly
  · exact orderly

/-- A happening at the link leaves the errand orderly. -/
theorem marked_onLink
    {happening : Link.Happening} (orderly : Remote.Orderly thread traffic.held traffic.rest)
    (invoking : (traffic.board.step happening).1.invoking =
      traffic.held.foldr InvokingThreads.enter prior) :
    Marked thread prior (traffic.onLink happening) where
  orderly := by
    rw [onLink]
    refine orderly_answer ?_ _
    exact orderly
  invoking := by
    rw [board_onLink, held_onLink]
    exact invoking

theorem Marked.onLink
    (marked : Marked thread prior traffic) {happening : Link.Happening}
    (enters : ∀ thread, happening ≠ .enter thread) (leaves : ∀ thread, happening ≠ .leave thread) :
    Marked thread prior (traffic.onLink happening) := by
  apply marked_onLink marked.orderly
  rw [(traffic.board.step_change happening).invoking enters leaves]
  exact marked.invoking

theorem Marked.proceed
    (marked : Marked thread prior traffic) (positive : prior.counts.find? thread ≠ some 0)
    (known : Option Remote.TypeMetadata) : Marked thread prior (traffic.proceed known) := by
  have orderly := marked.orderly
  rw [Traffic.proceed]
  split
  · exact marked
  · next entered next asks =>
      rw [asks] at orderly
      rcases orderly.entering with ⟨rfl, none, inside⟩
      apply marked_onLink
      · show Remote.Orderly entered (entered :: traffic.held) _
        rw [none]
        exact inside
      · show traffic.board.invoking.enter entered = _
        rw [marked.invoking]
        rfl
  · next left next asks =>
      rw [asks] at orderly
      rcases orderly.leaving with ⟨rfl, one, outside⟩
      apply marked_onLink
      · show Remote.Orderly left (traffic.held.erase left) _
        rw [one, List.erase_cons_head]
        exact outside
      · show traffic.board.invoking.leave left = (traffic.held.erase left).foldr _ _
        rw [marked.invoking, one, List.erase_cons_head]
        exact InvokingThreads.leave_enter positive
  · next type next asks =>
      rw [asks] at orderly
      generalize traffic.held = held at orderly
      cases orderly
  · next type metadata next asks =>
      rw [asks] at orderly
      generalize traffic.held = held at orderly
      cases orderly
  · split
    · apply Marked.onLink
      · exact marked.of_eq rfl rfl rfl
      · rintro other ⟨⟩
      · rintro other ⟨⟩
    · apply Marked.onLink
      · exact marked.of_eq rfl rfl rfl
      · rintro other ⟨⟩
      · rintro other ⟨⟩
    · exact marked

theorem Marked.step
    (marked : Marked thread prior traffic) (positive : prior.counts.find? thread ≠ some 0)
    {happening : Happening} (spares : traffic.Spares happening) :
    Marked thread prior (traffic.step happening) := by
  cases happening with
  | proceed known => exact marked.proceed positive known
  | link happening =>
      rw [Traffic.step]
      split
      · next plain =>
          apply marked.onLink
          · rintro other rfl
            cases plain
          · rintro other rfl
            cases plain
      · exact marked
  | enter other => exact spares.elim
  | leave other => exact spares.elim
  | arrive writable =>
      rw [Traffic.step]
      split
      · exact marked
      · apply Marked.onLink
        · exact marked.of_eq rfl rfl rfl
        · rintro other ⟨⟩
        · rintro other ⟨⟩
  | deliver =>
      rw [Traffic.step]
      split
      · exact marked
      · exact marked.of_eq rfl rfl rfl
  | emit packet => exact marked.of_eq rfl rfl rfl

theorem Undisturbed.marked
    {start : Traffic α} (undisturbed : Undisturbed start traffic)
    (marked : Marked thread prior start) (positive : prior.counts.find? thread ≠ some 0) :
    Marked thread prior traffic := by
  induction undisturbed with
  | start => exact marked
  | step _ happening spares ih => exact ih.step positive spares

/-- An errand is about to begin. -/
structure Begins
    (errand : Remote.Errand α) (start : Traffic (Except Halt α)) : Prop where
  rest : start.rest = errand.run
  calling : start.calling = .idle
  held : start.held = []

end Traffic

open Traffic Remote

/-- However an invocation ends, it leaves the table of marked threads exactly as it was; it could
lose nothing but a zero, and no table holds one.  As long as its command is sent its thread is
marked, and what else it sends it sends when its mark is gone.  It ends even if the target never
replies. -/
theorem invocations_release_their_threads
    {usage : Usage} {thread : ThreadId} {errand : Errand InvokeOutcome}
    (invokes : Invokes usage thread errand) {start : Traffic (Except Halt InvokeOutcome)}
    (begins : start.Begins errand)
    (positive : start.board.invoking.counts.find? thread ≠ some 0) :
    (∀ traffic, Undisturbed start traffic →
      (∀ outcome, traffic.rest = .done outcome →
        traffic.board.invoking = start.board.invoking) ∧
      ∀ order next, traffic.rest = .ask (.send order) next →
        order.patience = .invocation ∧
            traffic.board.invoking = start.board.invoking.enter thread ∧
            traffic.board.invoking.contains thread = true ∨
          order.patience = .ordinary ∧ traffic.board.invoking = start.board.invoking) ∧
    ∀ happenings, Lasting start happenings →
      ∃ count outcome, (after start happenings count).rest = .done outcome ∧
        (after start happenings count).board.invoking = start.board.invoking := by
  have ready : Marked thread start.board.invoking start := by
    constructor
    · rw [begins.held, begins.rest]
      exact invokes.orderly
    · rw [begins.held]
      rfl
  have released {traffic : Traffic (Except Halt InvokeOutcome)}
      (undisturbed : Undisturbed start traffic) (outcome : Except Halt InvokeOutcome)
      (ended : traffic.rest = .done outcome) :
      traffic.board.invoking = start.board.invoking := by
    have marked := undisturbed.marked ready positive
    have orderly := marked.orderly
    rw [ended] at orderly
    rw [marked.invoking, orderly.held_eq_nil]
    rfl
  refine ⟨fun traffic undisturbed => ⟨released undisturbed, ?_⟩, ?_⟩
  · intro order next sends
    have marked := undisturbed.marked ready positive
    have orderly := marked.orderly
    rw [sends] at orderly
    rw [marked.invoking]
    rcases orderly.sending with ⟨one, runs⟩ | ⟨none, rests⟩
    · rw [one]
      exact .inl ⟨runs, rfl, InvokingThreads.contains_enter⟩
    · rw [none]
      exact .inr ⟨rests, rfl⟩
  · intro happenings lasting
    rcases lasting.ends (served_of_idle begins.calling) with ⟨count, outcome, ended⟩
    exact ⟨count, outcome, ended, released (lasting.undisturbed count) outcome ended⟩

/-- A method that returns an array is invoked on a thread on which two other invocations run. -/
def nestedInvocation : Traffic (Except Halt InvokeOutcome) where
  board :=
    { Switchboard.fresh 4 with
      invoking := ((InvokingThreads.empty.enter 7).enter 8).enter 7 }
  outbound := []
  inbound := []
  rest := (Errand.invoke ⟨true, 8⟩ 7 none ⟨2, 3, "all", "()[I", true⟩ []).run
  calling := .idle
  invocation := none
  received := false
  held := []
  others := [7, 8, 7]

/-- The target returns the array `50`. -/
def arrayReply : Packet where
  isReply := true
  id := 1
  bytes := Reply.encode ⟨1, 0, [91, 0, 0, 0, 0, 0, 0, 0, 50, 76, 0, 0, 0, 0, 0, 0, 0, 0]⟩

/-- The reply has arrived, and the errand has left its scope. -/
def answered : Traffic (Except Halt InvokeOutcome) :=
  nestedInvocation.run [.proceed none, .proceed none, .proceed none, .link (.take none),
    .emit arrayReply, .arrive 0, .proceed none]

theorem undisturbed_answered : Undisturbed nestedInvocation answered := by
  have begun : Undisturbed nestedInvocation nestedInvocation := .start
  have entered := begun.step (.proceed none) trivial
  have submitted := (entered.step (.proceed none) trivial).step (.proceed none) trivial
  have written := submitted.step (.link (.take none)) trivial
  have replied := (written.step (.emit arrayReply) trivial).step (.arrive 0) trivial
  exact replied.step (.proceed none) trivial

/-- The target never replies. -/
def silence : Nat → Traffic.Happening
  | 3 => .link (.giveUp 1 ⟨0⟩)
  | _ => .proceed none

/-- Five steps, and then nothing is left to do. -/
theorem after_silence (more : Nat) :
    after nestedInvocation silence (5 + more) = after nestedInvocation silence 5 := by
  induction more with
  | zero => rfl
  | succ more ih =>
      have quiet : silence (5 + more) = .proceed none := by
        rw [Nat.add_comm]
        rfl
      show (after nestedInvocation silence (5 + more)).step (silence (5 + more)) = _
      rw [ih, quiet]
      rfl

theorem lasting_silence : Lasting nestedInvocation silence where
  spares := by
    intro count
    rw [silence.eq_def]
    split <;> trivial
  goes := by
    intro count
    refine ⟨count, Nat.le_refl count, ?_⟩
    by_cases early : count < 5
    · right
      match count, early with
      | 0, _ => rintro id ⟨⟩
      | 1, _ => rintro id ⟨⟩
      | 2, _ => rintro id ⟨⟩
      | 3, _ => rfl
      | 4, _ => rintro id ⟨⟩
    · left
      rcases Nat.exists_eq_add_of_le (Nat.le_of_not_lt early) with ⟨more, rfl⟩
      exact ⟨_, congrArg Traffic.rest (after_silence more)⟩

/-- The table is as it was when the type of the array is asked for, and also after a silence. -/
theorem nested_invocation_is_released :
    Invokes ⟨true, 8⟩ 7 (Errand.invoke ⟨true, 8⟩ 7 none ⟨2, 3, "all", "()[I", true⟩ []) ∧
      nestedInvocation.board.invoking.counts.find? 7 = some 2 ∧
      (∃ next, answered.rest = .ask (.send (Call.objectType 50).order) next) ∧
      answered.board.invoking = nestedInvocation.board.invoking ∧
      ∃ count, (after nestedInvocation silence count).board.invoking =
        nestedInvocation.board.invoking := by
  have invokes : Invokes ⟨true, 8⟩ 7
      (Errand.invoke ⟨true, 8⟩ 7 none ⟨2, 3, "all", "()[I", true⟩ []) := .method none _ []
  have begins : nestedInvocation.Begins
      (Errand.invoke ⟨true, 8⟩ 7 none ⟨2, 3, "all", "()[I", true⟩ []) := ⟨rfl, rfl, rfl⟩
  have released := invocations_release_their_threads invokes begins (by decide)
  have asks : ∃ next, answered.rest = .ask (.send (Call.objectType 50).order) next := ⟨_, rfl⟩
  refine ⟨invokes, rfl, asks, ?_, ?_⟩
  · rcases asks with ⟨next, asks⟩
    rcases (released.1 answered undisturbed_answered).2 _ _ asks with ⟨runs, _⟩ | ⟨_, gone⟩
    · cases runs
    · exact gone
  · rcases released.2 silence lasting_silence with ⟨count, _, _, same⟩
    exact ⟨count, same⟩

end Link

end FrameEval
