import FrameEval.Proofs.Link.Custody
import FrameEval.Proofs.Link.Traffic

/-!
# The end of an errand

An errand waits for nothing but the results of its commands, and for these no longer than its
patience lasts.  So it comes to its end whatever the target and other callers do meanwhile, as long
as it goes on when it can and gives up in the end where it cannot.

The invariant is that the switchboard knows of each command that the errand has begun to send: it
keeps the command while that is drafted, and it lists its id while its result is waited for.  The
measure is how far the errand has come: no step takes it back, and its own steps carry it on.
-/

namespace FrameEval

/-- Whether a request sends a command. -/
def Remote.Request.sends : Request → Bool
  | .send _ => true
  | _ => false

namespace Link.Traffic

open Wire

variable {α : Type}

/-! ## Undisturbed runs -/

/-- While a happening takes place no other caller begins or ends an invocation.  A command that the
errand drafted is handed over by nobody else. -/
def Spares (traffic : Traffic α) : Happening → Prop
  | .enter _ => False
  | .leave _ => False
  | .link (.submit id) => traffic.calling ≠ .drafted id
  | _ => True

/-- What can become of an errand and its surroundings while nobody else makes an invocation. -/
inductive Undisturbed (start : Traffic α) : Traffic α → Prop where
  | start : Undisturbed start start
  | step
      {traffic : Traffic α} (before : Undisturbed start traffic) (happening : Happening)
      (spares : traffic.Spares happening) : Undisturbed start (traffic.step happening)

/-- What the errand does of its own accord: it goes on, or the time of the command that it waits for
is up. -/
def IsOwn (traffic : Traffic α) : Happening → Prop
  | .proceed _ => ∀ id, traffic.calling ≠ .waiting id
  | .link (.giveUp id _) => traffic.calling = .waiting id
  | _ => False

/-! ## Commands on their way -/

/-- The switchboard knows of the command that an errand has begun to send. -/
structure Served (traffic : Traffic α) : Prop where
  asking : traffic.calling ≠ .idle → ∃ order next, traffic.rest = .ask (.send order) next
  drafted : ∀ id, traffic.calling = .drafted id → id ∈ traffic.board.draftIds
  waiting : ∀ id, traffic.calling = .waiting id → id ∈ traffic.board.waiting

variable {traffic : Traffic α}

theorem served_of_idle (idle : traffic.calling = .idle) : Served traffic where
  asking := fun calls => absurd idle calls
  drafted := by
    intro id drafts
    cases idle.symm.trans drafts
  waiting := by
    intro id waits
    cases idle.symm.trans waits

/-- Only the board, the rest of the errand and its call matter. -/
theorem Served.of_eq
    (served : Served traffic) {later : Traffic α} (board : later.board = traffic.board)
    (rest : later.rest = traffic.rest) (calling : later.calling = traffic.calling) :
    Served later where
  asking := by
    rw [calling, rest]
    exact served.asking
  drafted := by
    rw [calling, board]
    exact served.drafted
  waiting := by
    rw [calling, board]
    exact served.waiting

theorem Served.idle_of_ask
    (served : Served traffic) {request : Remote.Request}
    {next : request.Answer → Dialogue Remote.Request Remote.Request.Answer α}
    (asks : traffic.rest = .ask request next) (other : request.sends = false) :
    traffic.calling = .idle := by
  by_contra calls
  rcases served.asking calls with ⟨order, onward, sends⟩
  rw [asks] at sends
  cases sends
  cases other

theorem calling_ne_idle
    {id : PacketId} (waits : traffic.calling = .waiting id) : traffic.calling ≠ .idle := by
  rw [waits]
  rintro ⟨⟩

/-- An errand that is told nothing stays as it is. -/
theorem answer_of_silent
    {effects : List Effect}
    (silent : ∀ id, traffic.calling = .waiting id →
      effects.findSome? (Effect.result? id) = none) : traffic.answer effects = traffic := by
  rw [answer]
  split
  · next id order next waits _ => rw [silent id waits]
  · rfl

theorem answer_of_told
    {effects : List Effect} {id : PacketId} {order : Order}
    {next : Except ClientError Reply → Dialogue Remote.Request Remote.Request.Answer α}
    {result : Except ClientError Reply} (waits : traffic.calling = .waiting id)
    (asks : traffic.rest = .ask (.send order) next)
    (told : effects.findSome? (Effect.result? id) = some result) :
    traffic.answer effects = { traffic with rest := next result, calling := .idle } := by
  rw [answer]
  simp only [waits, asks, told]

/-- Who is told nothing by effects is not among those that are told. -/
theorem not_mem_toldBy
    {effects : List Effect} {id : PacketId}
    (silent : effects.findSome? (Effect.result? id) = none) : id ∉ toldBy effects := by
  intro told
  rcases mem_toldBy.1 told with ⟨result, member⟩
  have nothing := List.findSome?_eq_none_iff.1 silent _ member
  simp [Effect.result?] at nothing

/-- A waiting errand is told a result or waits on. -/
theorem served_answer
    {effects : List Effect}
    (asking : traffic.calling ≠ .idle → ∃ order next, traffic.rest = .ask (.send order) next)
    (drafted : ∀ id, traffic.calling = .drafted id → id ∈ traffic.board.draftIds)
    (waiting : ∀ id, traffic.calling = .waiting id →
      id ∈ traffic.board.waiting ∨ id ∈ toldBy effects) :
    Served (traffic.answer effects) := by
  by_cases waits : ∃ id, traffic.calling = .waiting id
  · rcases waits with ⟨id, waits⟩
    rcases asking (calling_ne_idle waits) with ⟨order, next, asks⟩
    cases told : effects.findSome? (Effect.result? id) with
    | some result =>
        rw [answer_of_told waits asks told]
        exact served_of_idle rfl
    | none =>
        have same {other : PacketId} (others : traffic.calling = .waiting other) : other = id :=
          Calling.waiting.inj (others.symm.trans waits)
        rw [answer_of_silent fun other others => same others ▸ told]
        refine ⟨asking, drafted, fun other others => ?_⟩
        rw [same others]
        exact (waiting id waits).resolve_right (not_mem_toldBy told)
  · have silent {id : PacketId} (calls : traffic.calling = .waiting id) : False :=
      waits ⟨id, calls⟩
    rw [answer_of_silent fun id calls => (silent calls).elim]
    exact ⟨asking, drafted, fun id calls => (silent calls).elim⟩

/-- A happening at the link loses no command, neither one that was handed over before nor one that
is handed over now. -/
theorem served_onLink
    {happening : Link.Happening}
    (asking : traffic.calling ≠ .idle → ∃ order next, traffic.rest = .ask (.send order) next)
    (drafted : ∀ id, traffic.calling = .drafted id →
      id ∈ (traffic.board.step happening).1.draftIds)
    (waiting : ∀ id, traffic.calling = .waiting id →
      id ∈ traffic.board.waiting ∨ traffic.board.Accepts happening id) :
    Served (traffic.onLink happening) := by
  rw [onLink]
  refine served_answer asking drafted ?_
  intro id waits
  exact ((traffic.board.step_change happening).waiting_or_told id).2 (waiting id waits)

theorem Served.onLink
    (served : Served traffic) {happening : Link.Happening}
    (spares : ∀ id, traffic.calling = .drafted id → happening ≠ .submit id) :
    Served (traffic.onLink happening) := by
  apply served_onLink served.asking
  · intro id drafts
    apply ((traffic.board.step_change happening).drafts id).2
    exact .inl ⟨served.drafted id drafts, fun accepts => spares id drafts accepts.1⟩
  · exact fun id waits => .inl (served.waiting id waits)

theorem Served.proceed
    (served : Served traffic) (known : Option Remote.TypeMetadata) :
    Served (traffic.proceed known) := by
  rw [Traffic.proceed]
  split
  · exact served
  · next thread next asks =>
      apply Served.onLink
      · exact served_of_idle (served.idle_of_ask asks rfl)
      · rintro id drafts ⟨⟩
  · next thread next asks =>
      apply Served.onLink
      · exact served_of_idle (served.idle_of_ask asks rfl)
      · rintro id drafts ⟨⟩
  · next type next asks => exact served_of_idle (served.idle_of_ask asks rfl)
  · next type metadata next asks => exact served_of_idle (served.idle_of_ask asks rfl)
  · next order next asks =>
      split
      · next idle =>
          apply served_onLink
          · exact fun _ => ⟨order, next, asks⟩
          · intro id drafts
            cases drafts
            have change := traffic.board.step_change (.draft order)
            exact (change.drafts _).2 (.inr (List.mem_singleton_self _))
          · rintro id ⟨⟩
      · next id drafts =>
          apply served_onLink
          · exact fun _ => ⟨order, next, asks⟩
          · rintro other ⟨⟩
          · intro other waits
            cases waits
            exact .inr ⟨rfl, served.drafted id drafts⟩
      · exact served

theorem Served.step
    (served : Served traffic) {happening : Happening} (spares : traffic.Spares happening) :
    Served (traffic.step happening) := by
  cases happening with
  | proceed known => exact served.proceed known
  | link happening =>
      rw [Traffic.step]
      split
      · apply served.onLink
        rintro id drafts rfl
        exact spares drafts
      · exact served
  | enter thread => exact spares.elim
  | leave thread => exact spares.elim
  | arrive writable =>
      rw [Traffic.step]
      split
      · exact served
      · apply Served.onLink
        · exact served.of_eq rfl rfl rfl
        · rintro id drafts ⟨⟩
  | deliver =>
      rw [Traffic.step]
      split
      · exact served
      · exact served.of_eq rfl rfl rfl
  | emit packet => exact served.of_eq rfl rfl rfl

theorem Undisturbed.served
    {start : Traffic α} (undisturbed : Undisturbed start traffic) (served : Served start) :
    Served traffic := by
  induction undisturbed with
  | start => exact served
  | step _ happening spares ih => exact ih.step spares

/-! ## Progress -/

/-- What is left of an errand, and how far its present call has come. -/
abbrev Standing (α : Type) :=
  Dialogue Remote.Request Remote.Request.Answer α × Calling

def standing (traffic : Traffic α) : Standing α :=
  (traffic.rest, traffic.calling)

/-- An errand has come further. -/
inductive Further : Standing α → Standing α → Prop where
  | draft (order : Order) (next) (id : PacketId) :
      Further (.ask (.send order) next, .idle) (.ask (.send order) next, .drafted id)
  | submit (order : Order) (next) (id : PacketId) :
      Further (.ask (.send order) next, .drafted id) (.ask (.send order) next, .waiting id)
  | answer (request : Remote.Request) (next) (calling : Calling) (answer : request.Answer) :
      Further (.ask request next, calling) (next answer, .idle)

/-- An errand does not come further for ever.  What is left of it depends on the answers, of which
there are infinitely many kinds, so no number bounds it beforehand. -/
theorem acc_further
    (rest : Dialogue Remote.Request Remote.Request.Answer α) (calling : Calling) :
    Acc (flip Further) (rest, calling) := by
  induction rest generalizing calling with
  | done outcome =>
      refine .intro _ fun later further => ?_
      cases further
  | ask request next ih =>
      have waiting (id : PacketId) : Acc (flip Further) (.ask request next, .waiting id) := by
        refine .intro _ fun later further => ?_
        cases further with
        | answer _ _ _ answer => exact ih answer .idle
      have drafted (id : PacketId) : Acc (flip Further) (.ask request next, .drafted id) := by
        refine .intro _ fun later further => ?_
        cases further with
        | submit _ _ _ => exact waiting id
        | answer _ _ _ answer => exact ih answer .idle
      cases calling with
      | idle =>
          refine .intro _ fun later further => ?_
          cases further with
          | draft _ _ id => exact drafted id
          | answer _ _ _ answer => exact ih answer .idle
      | drafted id => exact drafted id
      | waiting id => exact waiting id

/-- A result carries an errand on, and nothing else that the link does concerns it. -/
theorem standing_answer (effects : List Effect) :
    (traffic.answer effects).standing = traffic.standing ∨
      Further traffic.standing (traffic.answer effects).standing := by
  rw [answer]
  split
  · next id order next waits asks =>
      split
      · next result told =>
          right
          rw [standing, asks]
          exact .answer (.send order) next _ result
      · exact .inl rfl
  · exact .inl rfl

/-- What a happening at the link means to an errand depends on the effects only. -/
theorem standing_onLink_eq (happening : Link.Happening) :
    (traffic.onLink happening).standing =
      (traffic.answer (traffic.board.step happening).2).standing := by
  simp only [standing, onLink, answer]
  split
  · split <;> rfl
  · rfl

theorem standing_onLink (happening : Link.Happening) :
    (traffic.onLink happening).standing = traffic.standing ∨
      Further traffic.standing (traffic.onLink happening).standing := by
  rw [standing_onLink_eq]
  exact standing_answer _

theorem standing_onLink_of_silent
    (happening : Link.Happening) (silent : ∀ id, traffic.calling ≠ .waiting id) :
    (traffic.onLink happening).standing = traffic.standing := by
  rw [standing_onLink_eq, answer_of_silent fun id waits => absurd waits (silent id)]

theorem Further.onLink
    {earlier : Standing α} (further : Further earlier traffic.standing)
    (happening : Link.Happening) (silent : ∀ id, traffic.calling ≠ .waiting id) :
    Further earlier (traffic.onLink happening).standing := by
  rw [standing_onLink_of_silent happening silent]
  exact further

/-- A command that is handed over is waited for, unless its result is told at once. -/
theorem further_submit
    {order : Order}
    {next : Except ClientError Reply → Dialogue Remote.Request Remote.Request.Answer α}
    {id : PacketId} (asks : traffic.rest = .ask (.send order) next)
    (waits : traffic.calling = .waiting id) (happening : Link.Happening) :
    Further (.ask (.send order) next, .drafted id) (traffic.onLink happening).standing := by
  have stands : traffic.standing = (.ask (.send order) next, .waiting id) := by
    rw [standing, asks, waits]
  rcases traffic.standing_onLink happening with same | further
  · rw [same, stands]
    exact .submit order next id
  · rw [stands] at further
    generalize (traffic.onLink happening).standing = later at further ⊢
    cases further with
    | answer _ _ _ result => exact .answer (.send order) next _ result

/-- An errand that is not over and does not wait goes on. -/
theorem Served.further_proceed
    (served : Served traffic) (known : Option Remote.TypeMetadata)
    (goes : ∀ outcome, traffic.rest ≠ .done outcome)
    (silent : ∀ id, traffic.calling ≠ .waiting id) :
    Further traffic.standing (traffic.proceed known).standing := by
  have stands : traffic.standing = (traffic.rest, traffic.calling) := rfl
  rw [stands, Traffic.proceed]
  split
  · next outcome ended => exact absurd ended (goes outcome)
  · next thread next asks =>
      have idle := served.idle_of_ask asks rfl
      rw [asks, idle]
      apply Further.onLink
      · exact .answer (.enter thread) next _ ()
      · rintro id ⟨⟩
  · next thread next asks =>
      have idle := served.idle_of_ask asks rfl
      rw [asks, idle]
      apply Further.onLink
      · exact .answer (.leave thread) next _ ()
      · rintro id ⟨⟩
  · next type next asks =>
      have idle := served.idle_of_ask asks rfl
      rw [asks, idle]
      exact .answer (.lookUp type) next _ known
  · next type metadata next asks =>
      have idle := served.idle_of_ask asks rfl
      rw [asks, idle]
      exact .answer (.remember type metadata) next _ ()
  · next order next asks =>
      split
      · next idle =>
          rw [asks, idle]
          apply Further.onLink
          · exact .draft order next _
          · rintro id ⟨⟩
      · next id drafts =>
          rw [asks, drafts]
          apply further_submit
          · rfl
          · rfl
      · next id waits => exact absurd waits (silent id)

/-- What takes place carries an errand on or leaves it where it is. -/
theorem Served.standing_step
    (served : Served traffic) (happening : Happening) :
    (traffic.step happening).standing = traffic.standing ∨
      Further traffic.standing (traffic.step happening).standing := by
  cases happening with
  | proceed known =>
      cases asks : traffic.rest with
      | done outcome =>
          left
          rw [Traffic.step, Traffic.proceed, asks]
      | ask request next =>
          have goes (outcome : α) : traffic.rest ≠ .done outcome := by
            rw [asks]
            rintro ⟨⟩
          cases calls : traffic.calling with
          | idle => exact .inr (served.further_proceed known goes (by rw [calls]; rintro id ⟨⟩))
          | drafted id => exact .inr (served.further_proceed known goes (by rw [calls]; rintro id ⟨⟩))
          | waiting id =>
              left
              rcases served.asking (calling_ne_idle calls) with ⟨order, onward, sends⟩
              rw [Traffic.step, Traffic.proceed, sends, calls]
  | link happening =>
      rw [Traffic.step]
      split
      · exact standing_onLink happening
      · exact .inl rfl
  | enter thread =>
      exact @standing_onLink α { traffic with others := thread :: traffic.others } _
  | leave thread =>
      rw [Traffic.step]
      split
      · exact @standing_onLink α { traffic with others := traffic.others.erase thread } _
      · exact .inl rfl
  | arrive writable =>
      rw [Traffic.step]
      split
      · exact .inl rfl
      · next sent later arrived =>
          exact @standing_onLink α { traffic with inbound := later } _
  | deliver =>
      rw [Traffic.step]
      split
      · exact .inl rfl
      · exact .inl rfl
  | emit packet => exact .inl rfl

/-- A step of the errand itself carries it on. -/
theorem Served.further_of_isOwn
    (served : Served traffic) (goes : ∀ outcome, traffic.rest ≠ .done outcome)
    {happening : Happening} (own : traffic.IsOwn happening) :
    Further traffic.standing (traffic.step happening).standing := by
  cases happening with
  | proceed known => exact served.further_proceed known goes own
  | link happening =>
      cases happening with
      | giveUp id elapsed =>
          have waits : traffic.calling = .waiting id := own
          rcases served.asking (calling_ne_idle waits) with ⟨order, next, asks⟩
          have told :
              (traffic.board.step (.giveUp id elapsed)).2.findSome? (Effect.result? id) =
                some (.error (.timeout elapsed)) := by
            rw [Switchboard.step, Switchboard.conclude, if_pos (served.waiting id waits)]
            simp [Effect.result?]
          show Further _ (traffic.onLink (.giveUp id elapsed)).standing
          rw [standing_onLink_eq, answer_of_told waits asks told, standing, asks]
          exact .answer (.send order) next _ _
      | _ => exact own.elim
  | _ => exact own.elim

/-! ## Runs without an end -/

/-- What comes of happenings that never end. -/
def after (start : Traffic α) (happenings : Nat → Happening) : Nat → Traffic α
  | 0 => start
  | count + 1 => (after start happenings count).step (happenings count)

/-- A run in which nobody else makes an invocation, and in which the errand does not stand still
for ever. -/
structure Lasting (start : Traffic α) (happenings : Nat → Happening) : Prop where
  spares : ∀ count, (after start happenings count).Spares (happenings count)
  goes : ∀ count, ∃ later ≥ count,
    (∃ outcome, (after start happenings later).rest = .done outcome) ∨
      (after start happenings later).IsOwn (happenings later)

variable {start : Traffic α} {happenings : Nat → Happening}

theorem Lasting.undisturbed
    (lasting : Lasting start happenings) (count : Nat) :
    Undisturbed start (after start happenings count) := by
  induction count with
  | zero => exact .start
  | succ count ih => exact ih.step _ (lasting.spares count)

/-- Until its next own step the errand stays where it is or comes further, so it comes further. -/
theorem Lasting.ends_or_further
    (lasting : Lasting start happenings) (served : Served start) (count : Nat) :
    (∃ later outcome, (after start happenings later).rest = .done outcome) ∨
      ∃ later, Further (after start happenings count).standing
        (after start happenings later).standing := by
  rcases lasting.goes count with ⟨later, reached, goes⟩
  rcases Nat.exists_eq_add_of_le reached with ⟨distance, rfl⟩
  clear reached
  induction distance generalizing count with
  | zero =>
      rcases goes with ⟨outcome, ended⟩ | own
      · exact .inl ⟨count, outcome, ended⟩
      · by_cases ended : ∃ outcome, (after start happenings count).rest = .done outcome
        · exact .inl ⟨count, ended⟩
        · have known := (lasting.undisturbed count).served served
          exact .inr ⟨count + 1, known.further_of_isOwn (fun outcome => not_exists.1 ended outcome)
            own⟩
  | succ distance ih =>
      have known := (lasting.undisturbed count).served served
      rcases known.standing_step (happenings count) with same | further
      · rw [← same]
        apply ih (count + 1)
        rw [Nat.add_right_comm]
        exact goes
      · exact .inr ⟨count + 1, further⟩

/-- An errand comes to its end, whatever happens beside its own steps. -/
theorem Lasting.ends
    (lasting : Lasting start happenings) (served : Served start) :
    ∃ later outcome, (after start happenings later).rest = .done outcome := by
  have ending (standing : Standing α) (acc : Acc (flip Further) standing) :
      ∀ count, (after start happenings count).standing = standing →
        ∃ later outcome, (after start happenings later).rest = .done outcome := by
    induction acc with
    | intro standing _ ih =>
        rintro count rfl
        rcases lasting.ends_or_further served count with ended | ⟨later, further⟩
        · exact ended
        · exact ih _ further later rfl
  exact ending _ (acc_further _ _) 0 rfl

end Link.Traffic

end FrameEval
