import FrameEval.Dialogue

/-!
# Courses of a dialogue

A dialogue leaves its answers to its surroundings.  A record lists the exchanges that have
taken place, and two relations say what a dialogue does on a record: `Asks` that it then puts
a question, `Ends` that it is over with a result.  Nothing is assumed about the surroundings,
so what holds of every record holds of every target, deterministic or not.

`Meets` is the proof method.  It walks through a dialogue with the record as ghost state and
requires one condition of every question and one of every result; `meets_iff` says that this is
the same as quantifying over all records.
-/

namespace FrameEval.Dialogue

variable {Query State α β : Type} {Answer : Query → Type}

/-- A question with its answer. -/
abbrev Exchange (Answer : Query → Type) :=
  (question : Query) × Answer question

/-- The exchanges that have taken place, the first one first. -/
abbrev Record (Answer : Query → Type) :=
  List (Exchange Answer)

/-- After the exchanges of a record a dialogue puts a question. -/
inductive Asks : Dialogue Query Answer α → Record Answer → Query → Prop where
  | here
      {question : Query} {next : Answer question → Dialogue Query Answer α} :
      Asks (.ask question next) [] question
  | later
      {question asked : Query} {next : Answer question → Dialogue Query Answer α}
      {answer : Answer question} {record : Record Answer}
      (rest : Asks (next answer) record asked) :
      Asks (.ask question next) (⟨question, answer⟩ :: record) asked

/-- After the exchanges of a record a dialogue is over with a result. -/
inductive Ends : Dialogue Query Answer α → Record Answer → α → Prop where
  | done {result : α} : Ends (.done result) [] result
  | ask
      {question : Query} {next : Answer question → Dialogue Query Answer α}
      {answer : Answer question} {record : Record Answer} {result : α}
      (rest : Ends (next answer) record result) :
      Ends (.ask question next) (⟨question, answer⟩ :: record) result

@[simp]
theorem not_asks_done
    (result : α) (record : Record Answer) (asked : Query) :
    ¬ (done result : Dialogue Query Answer α).Asks record asked := by
  intro asks
  cases asks

@[simp]
theorem ends_done_iff
    (result other : α) (record : Record Answer) :
    (done result : Dialogue Query Answer α).Ends record other ↔
      record = [] ∧ other = result := by
  constructor
  · intro ends
    cases ends
    exact ⟨rfl, rfl⟩
  · rintro ⟨rfl, rfl⟩
    exact .done

/-! ## Sequences of dialogues -/

/-- A sequence is over when its second part is. -/
theorem ends_bind_iff
    (dialogue : Dialogue Query Answer α)
    (onward : α → Dialogue Query Answer β)
    (record : Record Answer) (final : β) :
    (dialogue >>= onward).Ends record final ↔
      ∃ first result second, record = first ++ second ∧
        dialogue.Ends first result ∧ (onward result).Ends second final := by
  constructor
  · intro ends
    induction dialogue generalizing record with
    | done result => exact ⟨[], result, record, rfl, .done, ends⟩
    | ask question next ih =>
        rw [ask_bind] at ends
        cases ends with
        | ask rest =>
            obtain ⟨first, result, second, rfl, firstEnds, secondEnds⟩ :=
              ih _ _ rest
            exact ⟨_ :: first, result, second, rfl, .ask firstEnds, secondEnds⟩
  · rintro ⟨first, result, second, rfl, firstEnds, secondEnds⟩
    induction firstEnds with
    | done => exact secondEnds
    | ask _ ih => exact .ask (ih secondEnds)

/-- A sequence puts the questions of its first part, and then those of its second part. -/
theorem asks_bind_iff
    (dialogue : Dialogue Query Answer α)
    (onward : α → Dialogue Query Answer β)
    (record : Record Answer) (asked : Query) :
    (dialogue >>= onward).Asks record asked ↔
      dialogue.Asks record asked ∨
        ∃ first result second, record = first ++ second ∧
          dialogue.Ends first result ∧ (onward result).Asks second asked := by
  constructor
  · intro asks
    induction dialogue generalizing record with
    | done result => exact .inr ⟨[], result, record, rfl, .done, asks⟩
    | ask question next ih =>
        rw [ask_bind] at asks
        cases asks with
        | here => exact .inl .here
        | later rest =>
            rcases ih _ _ rest with within | ⟨first, result, second, rfl, ends, beyond⟩
            · exact .inl (.later within)
            · exact .inr ⟨_ :: first, result, second, rfl, .ask ends, beyond⟩
  · rintro (within | ⟨first, result, second, rfl, ends, beyond⟩)
    · induction within with
      | here => exact .here
      | later _ ih => exact .later ih
    · induction ends with
      | done => exact beyond
      | ask _ ih => exact .later (ih beyond)

/-- A sequence depends only on what follows the ends of its first part. -/
theorem bind_congr
    {dialogue : Dialogue Query Answer α} {onward other : α → Dialogue Query Answer β}
    (same : ∀ record result, dialogue.Ends record result → onward result = other result) :
    dialogue >>= onward = dialogue >>= other := by
  induction dialogue with
  | done result => exact same [] result .done
  | ask question next ih =>
      rw [ask_bind, ask_bind]
      congr 1
      funext answer
      exact ih answer fun record result ends => same _ result (.ask ends)

/-! ## A record determines what a dialogue does -/

/-- The last question of a record was put after the exchanges before it. -/
theorem Ends.asks_last
    {dialogue : Dialogue Query Answer α} {record : Record Answer} {exchange : Exchange Answer}
    {result : α} (ends : dialogue.Ends (record ++ [exchange]) result) :
    dialogue.Asks record exchange.1 := by
  induction record generalizing dialogue with
  | nil =>
      cases ends
      exact .here
  | cons first record ih =>
      cases ends with
      | ask rest => exact .later (ih rest)

/-- A dialogue that is over asks nothing more. -/
theorem Ends.not_asks
    {dialogue : Dialogue Query Answer α} {record : Record Answer} {result : α}
    (ends : dialogue.Ends record result) (more : Record Answer) (asked : Query) :
    ¬ dialogue.Asks (record ++ more) asked := by
  intro asks
  induction ends with
  | done => exact not_asks_done _ _ _ asks
  | ask _ ih =>
      cases asks with
      | later rest => exact ih rest

/-- Whatever a question is answered, the dialogue asks on or is over. -/
theorem Asks.progress
    {dialogue : Dialogue Query Answer α}
    {record : Record Answer} {asked : Query}
    (asks : dialogue.Asks record asked) (answer : Answer asked) :
    (∃ result, dialogue.Ends (record ++ [⟨asked, answer⟩]) result) ∨
      ∃ next, dialogue.Asks (record ++ [⟨asked, answer⟩]) next := by
  induction asks with
  | @here question next =>
      cases onward : next answer with
      | done result => exact .inl ⟨result, .ask (by rw [onward]; exact .done)⟩
      | ask further _ => exact .inr ⟨further, .later (by rw [onward]; exact .here)⟩
  | later _ ih =>
      rcases ih answer with ⟨result, ends⟩ | ⟨next, goes⟩
      · exact .inl ⟨result, .ask ends⟩
      · exact .inr ⟨next, .later goes⟩

/-- A run against a state is over after its transcript. -/
theorem ends_transcript
    (handler : (question : Query) → State → Answer question × State)
    (dialogue : Dialogue Query Answer α) (state : State) :
    dialogue.Ends (dialogue.transcript handler state) (dialogue.run handler state).1 := by
  induction dialogue generalizing state with
  | done result => exact .done
  | ask question next ih => exact .ask (ih _ _)

/-- From one state to another a handler gives the answers of a record. -/
inductive Answered (handler : (question : Query) → State → Answer question × State) :
    State → Record Answer → State → Prop where
  | nil {state : State} : Answered handler state [] state
  | cons
      {question : Query} {state after : State} {record : Record Answer}
      (rest : Answered handler (handler question state).2 record after) :
      Answered handler state (⟨question, (handler question state).1⟩ :: record) after

theorem answered_cons_iff
    {handler : (question : Query) → State → Answer question × State}
    {state after : State} {exchange : Exchange Answer} {record : Record Answer} :
    Answered handler state (exchange :: record) after ↔
      (handler exchange.1 state).1 = exchange.2 ∧
        Answered handler (handler exchange.1 state).2 record after := by
  constructor
  · intro answered
    cases answered with
    | cons rest => exact ⟨rfl, rest⟩
  · rintro ⟨given, rest⟩
    obtain ⟨question, answer⟩ := exchange
    obtain rfl : (handler question state).1 = answer := given
    exact .cons rest

theorem answered_transcript
    (handler : (question : Query) → State → Answer question × State)
    (dialogue : Dialogue Query Answer α) (state : State) :
    Answered handler state (dialogue.transcript handler state) (dialogue.run handler state).2 := by
  induction dialogue generalizing state with
  | done result => exact .nil
  | ask question next ih => exact .cons (ih _ _)

theorem answered_append_iff
    {handler : (question : Query) → State → Answer question × State}
    {state after : State} {record more : Record Answer} :
    Answered handler state (record ++ more) after ↔
      ∃ between, Answered handler state record between ∧ Answered handler between more after := by
  induction record generalizing state with
  | nil =>
      constructor
      · intro answered
        exact ⟨state, .nil, answered⟩
      · rintro ⟨between, ⟨⟩, answered⟩
        exact answered
  | cons exchange record ih =>
      constructor
      · intro answered
        cases answered with
        | cons rest =>
            obtain ⟨between, first, second⟩ := ih.1 rest
            exact ⟨between, .cons first, second⟩
      · rintro ⟨between, first, second⟩
        cases first with
        | cons rest => exact .cons (ih.2 ⟨between, rest, second⟩)

/-- Every exchange of a run against a state was answered from some state. -/
theorem answered_of_mem_transcript
    (handler : (question : Query) → State → Answer question × State)
    (dialogue : Dialogue Query Answer α) (state : State)
    {exchange : Exchange Answer} (member : exchange ∈ dialogue.transcript handler state) :
    ∃ before, (handler exchange.1 before).1 = exchange.2 := by
  induction dialogue generalizing state with
  | done result => cases member
  | ask question next ih =>
      rcases List.mem_cons.1 member with rfl | later
      · exact ⟨state, rfl⟩
      · exact ih _ _ later

/-- A dialogue whose questions are answered by dialogues has a record of its own. -/
theorem ends_substitute
    {Inner : Type} {Reply : Inner → Type}
    (handler : (question : Query) → Dialogue Inner Reply (Answer question))
    (dialogue : Dialogue Query Answer α) {below : Record Reply} {result : α}
    (ends : (dialogue.substitute handler).Ends below result) :
    ∃ record, dialogue.Ends record result ∧
      ∀ exchange ∈ record, ∃ part, (handler exchange.1).Ends part exchange.2 := by
  induction dialogue generalizing below with
  | done result' =>
      rcases (ends_done_iff _ _ _).1 ends with ⟨-, rfl⟩
      exact ⟨[], .done, by simp⟩
  | ask question next ih =>
      rcases (ends_bind_iff _ _ _ _).1 ends with ⟨first, answer, second, -, answered, onward⟩
      rcases ih answer onward with ⟨record, rest, known⟩
      refine ⟨⟨question, answer⟩ :: record, .ask rest, fun exchange member => ?_⟩
      rcases List.mem_cons.1 member with rfl | later
      · exact ⟨first, answered⟩
      · exact known exchange later

/-- What such a dialogue asks, it asks to answer a question. -/
theorem asks_substitute
    {Inner : Type} {Reply : Inner → Type}
    (handler : (question : Query) → Dialogue Inner Reply (Answer question))
    (dialogue : Dialogue Query Answer α) {below : Record Reply} {asked : Inner}
    (asks : (dialogue.substitute handler).Asks below asked) :
    ∃ record question part, dialogue.Asks record question ∧
      (handler question).Asks part asked := by
  induction dialogue generalizing below with
  | done result => exact (not_asks_done _ _ _ asks).elim
  | ask question next ih =>
      rcases (asks_bind_iff _ _ _ _).1 asks with within | ⟨_, answer, _, -, -, beyond⟩
      · exact ⟨[], question, below, .here, within⟩
      · rcases ih answer beyond with ⟨record, later, part, puts, within⟩
        exact ⟨_, later, part, .later puts, within⟩

/-! ## Conditions on questions and results -/

/--
From a record on, every question that a dialogue puts is safe and every result is as wanted,
whatever the answers are.
-/
def Meets (safe : Record Answer → Query → Prop) (wanted : Record Answer → α → Prop) :
    Dialogue Query Answer α → Record Answer → Prop
  | done result, record => wanted record result
  | ask question next, record =>
      safe record question ∧
        ∀ answer, (next answer).Meets safe wanted (record ++ [⟨question, answer⟩])

variable {safe : Record Answer → Query → Prop}

/-- The conditions of a dialogue are conditions on all its records. -/
theorem meets_iff
    {wanted : Record Answer → α → Prop}
    (dialogue : Dialogue Query Answer α) (record : Record Answer) :
    dialogue.Meets safe wanted record ↔
      (∀ more asked, dialogue.Asks more asked → safe (record ++ more) asked) ∧
        ∀ more result, dialogue.Ends more result → wanted (record ++ more) result := by
  induction dialogue generalizing record with
  | done result =>
      simp only [Meets, not_asks_done, ends_done_iff, false_implies, implies_true, true_and]
      constructor
      · rintro holds more other ⟨rfl, rfl⟩
        simpa using holds
      · intro atEnd
        simpa using atEnd [] result ⟨rfl, rfl⟩
  | ask question next ih =>
      constructor
      · rintro ⟨first, rest⟩
        constructor
        · intro more asked asks
          cases asks with
          | here => simpa using first
          | later later =>
              simpa using ((ih _ _).1 (rest _)).1 _ _ later
        · intro more result ends
          cases ends with
          | ask later => simpa using ((ih _ _).1 (rest _)).2 _ _ later
      · rintro ⟨atQuestion, atEnd⟩
        refine ⟨by simpa using atQuestion [] question .here, fun answer => ?_⟩
        refine (ih answer _).2 ⟨fun more asked asks => ?_, fun more result ends => ?_⟩
        · simpa using atQuestion (⟨question, answer⟩ :: more) asked (.later asks)
        · simpa using atEnd (⟨question, answer⟩ :: more) result (.ask ends)

theorem Meets.mono
    {wider : Record Answer → Query → Prop} {wanted weaker : Record Answer → α → Prop}
    {dialogue : Dialogue Query Answer α} {record : Record Answer}
    (meets : dialogue.Meets safe wanted record)
    (questions : ∀ record asked, safe record asked → wider record asked)
    (results : ∀ record result, wanted record result → weaker record result) :
    dialogue.Meets wider weaker record := by
  induction dialogue generalizing record with
  | done result => exact results record result meets
  | ask question next ih =>
      rcases meets with ⟨first, rest⟩
      exact ⟨questions record question first, fun answer => ih answer (rest answer)⟩

theorem meets_bind
    {wanted : Record Answer → β → Prop}
    (dialogue : Dialogue Query Answer α)
    (onward : α → Dialogue Query Answer β) (record : Record Answer) :
    (dialogue >>= onward).Meets safe wanted record ↔
      dialogue.Meets safe
        (fun record result => (onward result).Meets safe wanted record) record := by
  induction dialogue generalizing record with
  | done result => rfl
  | ask question next ih =>
      exact and_congr Iff.rfl (forall_congr' fun answer => ih answer _)

end FrameEval.Dialogue
