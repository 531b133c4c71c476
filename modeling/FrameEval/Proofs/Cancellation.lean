import FrameEval.Proofs.Evaluation.Turn

/-!
# Cancellation

A watched run looks at its token before each instruction and nowhere else.  Against a target that
answers from a state of its own, such a run is therefore compared with the run without a token.
Either no instruction is to be started while the token is set, and both runs are the same but
for the checks; or the watched run ends before the first such instruction, with what complete
instructions of the other run have asked for.

Time is counted in questions, so the token may be set at any moment: before the run, between two
instructions, or while an operation of an instruction is under way.
-/

namespace FrameEval

open Dialogue Evaluation

namespace Dialogue

variable {Query State α : Type} {Answer : Query → Type}

/-- A dialogue is over after one of the beginnings of a record at most. -/
theorem Ends.unique
    {dialogue : Dialogue Query Answer α} {record other more rest : Record Answer}
    {result final : α}
    (first : dialogue.Ends record result) (second : dialogue.Ends other final)
    (same : record ++ more = other ++ rest) :
    record = other ∧ result = final := by
  induction first generalizing other with
  | done =>
      cases second
      exact ⟨rfl, rfl⟩
  | ask _ ih =>
      cases second with
      | ask later =>
          rw [List.cons_append, List.cons_append] at same
          obtain ⟨head, tail⟩ := List.cons.inj same
          cases head
          obtain ⟨rfl, rfl⟩ := ih later tail
          exact ⟨rfl, rfl⟩

end Dialogue

namespace Evaluation

/-! ## Checks and operations -/

/-- Whether an exchange is one with the target. -/
def isOperation : Exchange Inquiry.Answer → Bool
  | ⟨.operation _, _⟩ => true
  | ⟨.cancelled, _⟩ => false

/-- The exchanges with the target among those of a record. -/
def operations (record : Record) : Record :=
  record.filter isOperation

/-- How many times a record looks at the token. -/
def checks (record : Record) : Nat :=
  record.countP fun exchange => !isOperation exchange

@[simp]
theorem operations_append (record more : Record) :
    operations (record ++ more) = operations record ++ operations more := by
  simp [operations]

@[simp]
theorem operations_check (answer : Bool) (record : Record) :
    operations (⟨.cancelled, answer⟩ :: record) = operations record := rfl

@[simp]
theorem checks_append (record more : Record) :
    checks (record ++ more) = checks record + checks more := by
  simp [checks]

@[simp]
theorem checks_check (answer : Bool) (record : Record) :
    checks (⟨.cancelled, answer⟩ :: record) = checks record + 1 := by
  simp [checks, isOperation]

variable {α : Type}

/-- A dialogue that asks for operations only. -/
def Works (dialogue : Dialogue Inquiry Inquiry.Answer α) : Prop :=
  ∀ record asked, dialogue.Asks record asked → ∃ operation, asked = .operation operation

theorem Works.next
    {question : Inquiry} {next : question.Answer → Dialogue Inquiry Inquiry.Answer α}
    (works : Works (.ask question next)) (answer : question.Answer) :
    Works (next answer) := by
  intro record asked asks
  exact works _ asked (.later asks)

theorem Works.operations_eq
    {dialogue : Dialogue Inquiry Inquiry.Answer α} {record : Record} {result : α}
    (works : Works dialogue) (ends : dialogue.Ends record result) :
    operations record = record ∧ checks record = 0 := by
  induction ends with
  | done => exact ⟨rfl, rfl⟩
  | @ask question next answer record result _ ih =>
      obtain ⟨operation, rfl⟩ := works [] question .here
      obtain ⟨same, none⟩ := ih (works.next answer)
      constructor
      · rw [operations, List.filter_cons_of_pos rfl]
        exact congrArg (List.cons _) same
      · rw [checks, List.countP_cons_of_neg (by simp [isOperation])]
        exact none

end Evaluation

/-! ## Targets and tokens -/

/-- A target that answers each operation from a state of its own. -/
abbrev Target (State : Type) :=
  (operation : Operation) → State → Except Halt operation.Answer × State

namespace Target

variable {State α : Type} (target : Target State) (moment : Nat)

/-- The surroundings of a run that has no token. -/
def alone : (inquiry : Inquiry) → State → inquiry.Answer × State
  | .operation operation, state => target operation state
  | .cancelled, state => (false, state)

/-- The surroundings of a run whose token is set once so many questions have been put. -/
def withToken : (inquiry : Inquiry) → State × Nat → inquiry.Answer × (State × Nat)
  | .operation operation, (state, time) =>
      ((target operation state).1, (target operation state).2, time + 1)
  | .cancelled, (state, time) => (decide (moment ≤ time), state, time + 1)

variable {target moment}

/-- Operations are answered as if there were no token. -/
theorem transcript_withToken
    {dialogue : Dialogue Inquiry Inquiry.Answer α} (works : Works dialogue)
    (state : State) (time : Nat) :
    dialogue.transcript (target.withToken moment) (state, time) =
      dialogue.transcript target.alone state := by
  induction dialogue generalizing state time with
  | done result => rfl
  | ask question next ih =>
      obtain ⟨operation, rfl⟩ := works [] question .here
      exact congrArg (List.cons _) (ih _ (works.next _) _ _)

theorem run_withToken
    {dialogue : Dialogue Inquiry Inquiry.Answer α} (works : Works dialogue)
    (state : State) (time : Nat) :
    dialogue.run (target.withToken moment) (state, time) =
      ((dialogue.run target.alone state).1, (dialogue.run target.alone state).2,
        time + (dialogue.transcript target.alone state).length) := by
  induction dialogue generalizing state time with
  | done result => rfl
  | ask question next ih =>
      obtain ⟨operation, rfl⟩ := works [] question .here
      have later := ih (target operation state).1 (works.next _) (target operation state).2
        (time + 1)
      rw [Nat.add_assoc, Nat.add_comm 1] at later
      exact later

end Target

namespace Evaluation

/-! ## One turn -/

/-- While an instruction is executed only operations are asked for. -/
def workRegime : Regime where
  asks _ inquiry := ∃ operation, inquiry = .operation operation
  stops _ _ := True
  holds _ _ activation := activation.stack.exception = none
  thrown _ _ := True

theorem workRegime_steady
    (setting : Setting) : workRegime.Steady setting where
  calm holds := holds
  restack _ _ calm _ := calm
  fails _ _ := trivial
  underflows _ _ := trivial
  exhausts _ := trivial
  aborts _ := trivial
  performs holds _ _ := ⟨⟨_, rfl⟩, fun _ => holds, fun _ => trivial⟩
  runs _ _ _ :=
    ⟨⟨_, rfl⟩, fun _ => ⟨⟨_, rfl⟩, fun _ => trivial, fun _ => trivial⟩, fun _ => trivial⟩
  resumes := by
    intro height record activation outcome info later calm _ _
    cases outcome with
    | returned value => exact calm
    | threw exception => trivial
  goesStale _ _ _ := trivial
  tells _ _ := ⟨_, rfl⟩
  told _ _ := trivial

variable {setting : Setting} {program : Program}

section Turn

variable {counter : Nat} {instruction : Instruction} {activation : Activation}
  (found : program[counter]? = some instruction) (calm : activation.stack.exception = none)

include found calm

theorem turn_meets :
    ((turn setting program.length false counter instruction).start activation).Meets
      workRegime.asks
      (workRegime.ends fun _ _ after => after.stack.exception = none) [] := by
  have inside : counter < program.length := (List.getElem?_eq_some_iff.1 found).1
  have turned : Triple workRegime.toRule (workRegime.holds (0 + instruction.pops))
      (turn setting program.length false counter instruction) _ :=
    (workRegime_steady setting).turn inside (fun _ _ _ _ => trivial) 0
  exact turned.weaken (fun _ _ holds => holds) (fun _ _ _ known => known.2) [] activation calm

theorem turn_works :
    Works ((turn setting program.length false counter instruction).start activation) := by
  intro record asked asks
  exact ((meets_iff _ _).1 (turn_meets found calm)).1 record asked asks

/-- A turn that is complete has thrown nothing. -/
theorem calm_of_turn
    {record : Record} {next : Nat} {between : Activation}
    (ends : ((turn setting program.length false counter instruction).start activation).Ends
      record (.ok next, between)) :
    between.stack.exception = none :=
  ((meets_iff _ _).1 (turn_meets found calm)).2 record _ ends

end Turn

/-- A watched turn is complete if the token is not set and the turn of any run is. -/
theorem ends_turn_watched_iff
    {length counter next : Nat} {instruction : Instruction} {activation between : Activation}
    {record : Record} :
    ((turn setting length true counter instruction).start activation).Ends record
        (.ok next, between) ↔
      ∃ made, record = ⟨.cancelled, false⟩ :: made ∧
        ((turn setting length false counter instruction).start activation).Ends made
          (.ok next, between) := by
  rw [ends_turn_iff]
  constructor
  · rintro (⟨-, -, impossible⟩ | ⟨made, rfl, ends⟩)
    · cases impossible
    · exact ⟨made, rfl, ends⟩
  · rintro ⟨made, rfl, ends⟩
    exact .inr ⟨made, rfl, ends⟩

/-! ## Runs -/

/-- A watched run is about to start an instruction after the exchanges of a record. -/
def Poised
    (setting : Setting) (program : Program) (limit counter : Nat) (activation : Activation)
    (record : Record) : Prop :=
  ∃ now reached instruction, Passes setting program true counter activation record now reached ∧
    program[now]? = some instruction ∧ checks record < limit

section Target

variable {State : Type} {target : Target State} {moment : Nat}
  {counter : Nat} {instruction : Instruction} {activation : Activation}

variable (setting target activation) in
/-- A watched run whose token is set starts no instruction. -/
theorem watched_of_set
    (found : program[counter]? = some instruction) (limit : Nat) (state : State) {time : Nat}
    (set : moment ≤ time) :
    let watched := (runFrom setting program true (limit + 1) counter).start activation
    watched.transcript (target.withToken moment) (state, time) = [⟨.cancelled, true⟩] ∧
      watched.run (target.withToken moment) (state, time) =
        ((.error (.failed .cancelled), activation), state, time + 1) := by
  intro watched
  have answer : target.withToken moment .cancelled (state, time) = (true, state, time + 1) := by
    simp [Target.withToken, set]
  have started : watched = .ask .cancelled fun answer =>
      (if answer then .done (.error (.failed .cancelled), activation)
        else (turn setting program.length false counter instruction).start activation) >>=
        onward setting program true limit := by
    show (runFrom setting program true (limit + 1) counter).start activation = _
    rw [start_runFrom found, start_turn_watched, ask_bind]
  rw [started, transcript, Dialogue.run, answer]
  exact ⟨rfl, rfl⟩

variable (setting target) in
/-- A watched run whose token is not set starts the instruction as any run does. -/
theorem watched_of_unset
    (found : program[counter]? = some instruction) (calm : activation.stack.exception = none)
    (limit : Nat) (state : State) {time : Nat} (unset : time < moment) :
    let watched := (runFrom setting program true (limit + 1) counter).start activation
    let started := (turn setting program.length false counter instruction).start activation
    let made := started.transcript target.alone state
    let left := started.run target.alone state
    let rest := onward setting program true limit left.1
    watched.transcript (target.withToken moment) (state, time) =
        ⟨.cancelled, false⟩ ::
          (made ++
            rest.transcript (target.withToken moment) (left.2, time + 1 + made.length)) ∧
      watched.run (target.withToken moment) (state, time) =
        rest.run (target.withToken moment) (left.2, time + 1 + made.length) := by
  intro watched started made left rest
  have answer : target.withToken moment .cancelled (state, time) = (false, state, time + 1) := by
    simp [Target.withToken, unset]
  have works : Works started := turn_works found calm
  have split : watched = .ask .cancelled fun answer =>
      (if answer then .done (.error (.failed .cancelled), activation) else started) >>=
        onward setting program true limit := by
    show (runFrom setting program true (limit + 1) counter).start activation = _
    rw [start_runFrom found, start_turn_watched, ask_bind]
  rw [split, transcript, Dialogue.run, answer]
  constructor
  · show _ :: (started >>= onward setting program true limit).transcript _ _ = _
    rw [transcript_bind, Target.transcript_withToken works, Target.run_withToken works]
  · show (started >>= onward setting program true limit).run _ _ = _
    rw [run_bind, Target.run_withToken works]

variable (setting target activation) in
theorem plain_of_found
    (found : program[counter]? = some instruction) (limit : Nat) (state : State) :
    let plain := (runFrom setting program false (limit + 1) counter).start activation
    let started := (turn setting program.length false counter instruction).start activation
    let left := started.run target.alone state
    let rest := onward setting program false limit left.1
    plain.transcript target.alone state =
        started.transcript target.alone state ++ rest.transcript target.alone left.2 ∧
      plain.run target.alone state = rest.run target.alone left.2 := by
  intro plain started left rest
  have split : plain = started >>= onward setting program false limit :=
    start_runFrom found false limit activation
  rw [split, transcript_bind, run_bind]
  exact ⟨rfl, rfl⟩

theorem Poised.found
    {limit : Nat} {record : Record}
    (poised : Poised setting program limit counter activation record) :
    ∃ instruction, program[counter]? = some instruction := by
  obtain ⟨now, reached, instruction, passes, start, few⟩ := poised
  cases passes with
  | here => exact ⟨instruction, start⟩
  | turn found => exact ⟨_, found⟩

/-- What is left of a record by which a run is poised, once a first turn has been made. -/
theorem Poised.of_turn
    {limit : Nat} {record : Record} (calm : activation.stack.exception = none)
    (found : program[counter]? = some instruction)
    (poised : Poised setting program (limit + 1) counter activation record)
    (further : record ≠ []) :
    ∃ first next between rest, record = ⟨.cancelled, false⟩ :: (first ++ rest) ∧
      ((turn setting program.length false counter instruction).start activation).Ends
        first (.ok next, between) ∧
      Poised setting program limit next between rest := by
  obtain ⟨now, reached, starting, passes, start, few⟩ := poised
  cases passes with
  | here => exact (further rfl).elim
  | @turn _ next _ _ between _ _ first rest same ends passes =>
      cases found.symm.trans same
      obtain ⟨made, rfl, complete⟩ := ends_turn_watched_iff.1 ends
      have none := ((turn_works found calm).operations_eq complete).2
      refine ⟨made, next, between, rest, rfl, complete, now, reached, starting, passes, start, ?_⟩
      rw [List.cons_append, checks_check, checks_append, none] at few
      omega

theorem Poised.after_turn
    {limit next : Nat} {between : Activation} {made record : Record}
    (calm : activation.stack.exception = none) (found : program[counter]? = some instruction)
    (ends : ((turn setting program.length false counter instruction).start
      activation).Ends made (.ok next, between))
    (poised : Poised setting program limit next between record) :
    Poised setting program (limit + 1) counter activation
      (⟨.cancelled, false⟩ :: (made ++ record)) := by
  obtain ⟨now, reached, starting, passes, start, few⟩ := poised
  have none := ((turn_works found calm).operations_eq ends).2
  refine ⟨now, reached, starting, ?_, start, ?_⟩
  · exact .turn found (ends_turn_watched_iff.2 ⟨made, rfl, ends⟩) passes
  · rw [checks_check, checks_append, none]
    omega

/-- A run that is poised within what it does against a target has made its first turn as the
target had it. -/
theorem Poised.within_rest
    {limit : Nat} {record : Record} {state : State} {time : Nat}
    (calm : activation.stack.exception = none) (found : program[counter]? = some instruction)
    (poised : Poised setting program (limit + 1) counter activation record)
    (further : record ≠ []) (unset : time < moment)
    (within : record <+: ((runFrom setting program true (limit + 1) counter).start
      activation).transcript (target.withToken moment) (state, time)) :
    let started := (turn setting program.length false counter instruction).start activation
    let made := started.transcript target.alone state
    let left := started.run target.alone state
    ∃ next between rest, left.1 = (.ok next, between) ∧
      record = ⟨.cancelled, false⟩ :: (made ++ rest) ∧
      started.Ends made (.ok next, between) ∧
      Poised setting program limit next between rest ∧
      rest <+: ((runFrom setting program true limit next).start between).transcript
        (target.withToken moment) (left.2, time + 1 + made.length) := by
  intro started made left
  obtain ⟨first, next, between, rest, rfl, ends, onward⟩ := poised.of_turn calm found further
  obtain ⟨seen, -⟩ := watched_of_unset setting target found calm limit state unset
  rw [seen] at within
  obtain ⟨-, later, same⟩ := List.cons_prefix_cons.1 within
  rw [List.append_assoc] at same
  obtain ⟨rfl, result⟩ := ends.unique (ends_transcript target.alone started state) same
  have within := List.append_cancel_left same
  rw [← result] at within
  exact ⟨next, between, rest, result.symm, rfl, ends, onward, later, within⟩

variable (setting program target moment) in
/-- A watched run is cut off after the exchanges of a record. -/
structure CutAt
    (limit counter : Nat) (activation : Activation) (state : State) (time : Nat)
    (record : Record) : Prop where
  /-- The check finds the token set, and nothing comes after it. -/
  transcript_eq : ((runFrom setting program true limit counter).start activation).transcript
    (target.withToken moment) (state, time) = record ++ [⟨.cancelled, true⟩]
  /-- What was asked before is what complete instructions of the other run ask. -/
  complete : ∃ now reached,
    Passes setting program false counter activation (operations record) now reached ∧
      (((runFrom setting program true limit counter).start activation).run
        (target.withToken moment) (state, time)).1 = (.error (.failed .cancelled), reached)
  isPrefix : operations record <+:
    ((runFrom setting program false limit counter).start activation).transcript target.alone state

/-- The check before an instruction finds the token set. -/
theorem CutAt.of_set
    (found : program[counter]? = some instruction) (limit : Nat) (state : State) {time : Nat}
    (set : moment ≤ time) :
    CutAt setting program target moment (limit + 1) counter activation state time [] := by
  obtain ⟨seen, ended⟩ := watched_of_set setting target activation found limit state set
  exact
    { transcript_eq := seen
      complete := ⟨counter, activation, .here, congrArg Prod.fst ended⟩
      isPrefix := List.nil_prefix }

/-- A turn before the place where a run is cut off. -/
theorem CutAt.after_turn
    {limit next : Nat} {between : Activation} {state : State} {time : Nat} {record : Record}
    (found : program[counter]? = some instruction) (calm : activation.stack.exception = none)
    (unset : time < moment) :
    let started := (turn setting program.length false counter instruction).start activation
    let made := started.transcript target.alone state
    let left := started.run target.alone state
    left.1 = (.ok next, between) →
      CutAt setting program target moment limit next between left.2 (time + 1 + made.length)
        record →
      CutAt setting program target moment (limit + 1) counter activation state time
        (⟨.cancelled, false⟩ :: (made ++ record)) := by
  intro started made left result cut
  obtain ⟨seen, ended⟩ := watched_of_unset setting target found calm limit state unset
  obtain ⟨whole, -⟩ := plain_of_found setting target activation found limit state
  have ends := ends_transcript target.alone started state
  have own := ((turn_works found calm).operations_eq ends).1
  obtain ⟨now, reached, passes, stopped⟩ := cut.complete
  have result' : (started.run target.alone state).1 = (.ok next, between) := result
  rw [result'] at seen ended whole ends
  have turned :
      operations (⟨.cancelled, false⟩ :: (made ++ record)) = made ++ operations record := by
    rw [operations_check, operations_append, own]
  refine
    { transcript_eq := ?transcript
      complete := ⟨now, reached, ?passes, ?ended⟩
      isPrefix := ?isPrefix }
  case transcript =>
    rw [seen, List.cons_append, List.append_assoc, ← cut.transcript_eq]
    rfl
  case passes =>
    rw [turned]
    exact .turn found ends passes
  case ended =>
    rw [ended]
    exact stopped
  case isPrefix =>
    rw [turned, whole]
    exact (List.prefix_append_right_inj _).2 cut.isPrefix

/-- Where an instruction is to be started while the token is set, the run is cut off. -/
theorem cutAt_of_poised
    {limit : Nat} (calm : activation.stack.exception = none) (state : State) (time : Nat)
    {record : Record} (poised : Poised setting program limit counter activation record)
    (within : record <+: ((runFrom setting program true limit counter).start
      activation).transcript (target.withToken moment) (state, time))
    (set : moment ≤ time + record.length) :
    CutAt setting program target moment limit counter activation state time record := by
  induction limit generalizing counter activation state time record with
  | zero =>
      obtain ⟨_, _, _, _, _, few⟩ := poised
      exact (Nat.not_lt_zero _ few).elim
  | succ limit ih =>
      obtain ⟨instruction, found⟩ := poised.found
      by_cases early : moment ≤ time
      · have nothing : record = [] := by
          by_contra further
          obtain ⟨first, next, between, rest, rfl, -⟩ := poised.of_turn calm found further
          rw [(watched_of_set setting target activation found limit state early).1] at within
          obtain ⟨same, -⟩ := List.cons_prefix_cons.1 within
          cases same
        subst nothing
        exact .of_set found limit state early
      · have unset : time < moment := Nat.lt_of_not_le early
        have further : record ≠ [] := by
          rintro rfl
          exact early set
        obtain ⟨next, between, rest, result, rfl, ends, onward, later⟩ :=
          poised.within_rest calm found further unset within
        have still : between.stack.exception = none := calm_of_turn found calm ends
        have cut := ih still _ _ onward later (by
          rw [List.length_cons, List.length_append] at set
          omega)
        exact cut.after_turn found calm unset result

variable (setting program target moment) in
/-- A watched run is as it is without a token, but for the checks. -/
structure SameAt
    (limit counter : Nat) (activation : Activation) (state : State) (time : Nat) : Prop where
  operations_eq :
    operations (((runFrom setting program true limit counter).start activation).transcript
        (target.withToken moment) (state, time)) =
      ((runFrom setting program false limit counter).start activation).transcript target.alone
        state
  result_eq :
    (((runFrom setting program true limit counter).start activation).run
        (target.withToken moment) (state, time)).1 =
      (((runFrom setting program false limit counter).start activation).run target.alone state).1

/-- A run that starts no instruction looks at no token. -/
theorem sameAt_of_works
    {limit : Nat}
    {dialogue : Dialogue Inquiry Inquiry.Answer (Except Halt RemoteValue × Activation)}
    (works : Works dialogue)
    (same : ∀ watched, (runFrom setting program watched limit counter).start activation = dialogue)
    (state : State) (time : Nat) :
    SameAt setting program target moment limit counter activation state time where
  operations_eq := by
    rw [same true, same false, Target.transcript_withToken works]
    exact (works.operations_eq (ends_transcript target.alone dialogue state)).1
  result_eq := by rw [same true, same false, Target.run_withToken works]

theorem sameAt_of_beyond
    (beyond : program[counter]? = none) (limit : Nat) (state : State) (time : Nat) :
    SameAt setting program target moment limit counter activation state time := by
  apply sameAt_of_works _ (fun watched => by rw [runFrom_beyond beyond]) state time
  intro record asked asks
  exact (not_asks_result activation record asked asks).elim

/-- A turn that ends the run. -/
theorem SameAt.of_halt
    {limit : Nat} {halt : Halt} {between : Activation} {state : State} {time : Nat}
    (found : program[counter]? = some instruction) (calm : activation.stack.exception = none)
    (unset : time < moment)
    (result : (((turn setting program.length false counter instruction).start activation).run
      target.alone state).1 = (.error halt, between)) :
    SameAt setting program target moment (limit + 1) counter activation state time := by
  obtain ⟨seen, ended⟩ := watched_of_unset setting target found calm limit state unset
  obtain ⟨whole, finished⟩ := plain_of_found setting target activation found limit state
  have ends := ends_transcript target.alone
    ((turn setting program.length false counter instruction).start activation) state
  have own := ((turn_works found calm).operations_eq ends).1
  rw [result] at seen ended whole finished
  constructor
  · rw [seen, whole, operations_check, operations_append, own]
    rfl
  · rw [ended, finished]
    rfl

/-- A turn after which the run goes on. -/
theorem SameAt.after_turn
    {limit next : Nat} {between : Activation} {state : State} {time : Nat}
    (found : program[counter]? = some instruction) (calm : activation.stack.exception = none)
    (unset : time < moment) :
    let started := (turn setting program.length false counter instruction).start activation
    let made := started.transcript target.alone state
    let left := started.run target.alone state
    left.1 = (.ok next, between) →
      SameAt setting program target moment limit next between left.2 (time + 1 + made.length) →
      SameAt setting program target moment (limit + 1) counter activation state time := by
  intro started made left result rest
  obtain ⟨seen, ended⟩ := watched_of_unset setting target found calm limit state unset
  obtain ⟨whole, finished⟩ := plain_of_found setting target activation found limit state
  have own := ((turn_works found calm).operations_eq (ends_transcript target.alone started state)).1
  have result' : (started.run target.alone state).1 = (.ok next, between) := result
  rw [result'] at seen ended whole finished
  constructor
  · rw [seen, whole, operations_check, operations_append, own]
    exact congrArg _ rest.operations_eq
  · rw [ended, finished]
    exact rest.result_eq

/-- Unless an instruction is to be started while the token is set, there might be no token. -/
theorem sameAt_of_unset
    {limit : Nat} (calm : activation.stack.exception = none) (state : State) (time : Nat)
    (unset : ∀ record, Poised setting program limit counter activation record →
      record <+: ((runFrom setting program true limit counter).start activation).transcript
        (target.withToken moment) (state, time) → time + record.length < moment) :
    SameAt setting program target moment limit counter activation state time := by
  induction limit generalizing counter activation state time with
  | zero =>
      cases start : program[counter]? with
      | none => exact sameAt_of_beyond start 0 state time
      | some instruction =>
          have stopped : ∀ watched, (runFrom setting program watched 0 counter).start activation =
              .done (.error .exhausted, activation) := by
            intro watched
            rw [runFrom, start]
            rfl
          apply sameAt_of_works _ stopped state time
          intro record asked asks
          exact (not_asks_done _ _ _ asks).elim
  | succ limit ih =>
      cases found : program[counter]? with
      | none => exact sameAt_of_beyond found (limit + 1) state time
      | some instruction =>
          have early : time < moment :=
            unset [] ⟨counter, activation, instruction, .here, found, Nat.succ_pos limit⟩
              List.nil_prefix
          have ends := ends_transcript target.alone
            ((turn setting program.length false counter instruction).start activation) state
          rcases result : (((turn setting program.length false counter instruction).start
            activation).run target.alone state).1 with ⟨halt | next, between⟩
          · exact .of_halt found calm early result
          · rw [result] at ends
            refine .after_turn found calm early result
              (ih (calm_of_turn found calm ends) _ _ ?_)
            intro record poised within
            have seen := (watched_of_unset setting target found calm limit state early).1
            rw [result] at seen
            have further := unset _ (poised.after_turn calm found ends) (by
              rw [seen, List.cons_prefix_cons]
              exact ⟨rfl, (List.prefix_append_right_inj _).2 within⟩)
            rw [List.length_cons, List.length_append] at further
            omega

end Target

end Evaluation

/-! ## Runs in a context -/

namespace Context

variable {State : Type} (context : Context) (mode : RunMode) (program : Program)
  (target : Target State) (state : State) (moment : Nat)

/-- The exchanges of a run without a token. -/
def exchanges : Record :=
  (context.run { mode with watched := false } program).transcript target.alone state

/-- What a run without a token ends in. -/
def outcome : Except Halt RemoteValue × Context :=
  ((context.run { mode with watched := false } program).run target.alone state).1

/-- The exchanges of a run with a token, its checks among them. -/
def watchedExchanges : Record :=
  (context.run { mode with watched := true } program).transcript (target.withToken moment)
    (state, 0)

/-- What a run with a token ends in. -/
def watchedOutcome : Except Halt RemoteValue × Context :=
  ((context.run { mode with watched := true } program).run (target.withToken moment)
    (state, 0)).1

/-- A run in the context is about to start an instruction after the exchanges of a record. -/
def Poised (record : Record) : Prop :=
  Evaluation.Poised ⟨context.binding, mode.searchLimit⟩ program mode.stepLimit 0
    ⟨context.frameId, .empty⟩ record

theorem transcript_run
    {Surroundings : Type}
    (handler : (inquiry : Inquiry) → Surroundings → inquiry.Answer × Surroundings)
    (surroundings : Surroundings) :
    (context.run mode program).transcript handler surroundings =
      ((runFrom ⟨context.binding, mode.searchLimit⟩ program mode.watched mode.stepLimit 0).start
        ⟨context.frameId, .empty⟩).transcript handler surroundings := by
  rw [run, evaluate, transcript_bind]
  exact List.append_nil _

theorem run_run
    {Surroundings : Type}
    (handler : (inquiry : Inquiry) → Surroundings → inquiry.Answer × Surroundings)
    (surroundings : Surroundings) :
    ((context.run mode program).run handler surroundings).1 =
      let ended := (((runFrom ⟨context.binding, mode.searchLimit⟩ program mode.watched
        mode.stepLimit 0).start ⟨context.frameId, .empty⟩).run handler surroundings).1
      (ended.1, { context with frameId := ended.2.frameId }) := by
  rw [run, evaluate, run_bind]
  rfl

end Context

/-- How a run with a token compares with the run without one. -/
structure Interruption
    {State : Type} (context : Context) (mode : RunMode) (program : Program)
    (target : Target State) (state : State) (moment : Nat) : Prop where
  /-- The operations are the first ones of the run without a token. -/
  performed : operations (context.watchedExchanges mode program target state moment) <+:
    context.exchanges mode program target state
  /-- If an instruction is to be started while the token is set, nothing is asked after this
  check, and what was asked before it is what complete instructions ask. -/
  cut : ∀ record, context.Poised mode program record →
    record <+: context.watchedExchanges mode program target state moment →
    moment ≤ record.length →
      context.watchedExchanges mode program target state moment =
          record ++ [⟨.cancelled, true⟩] ∧
        ∃ now reached,
          Passes ⟨context.binding, mode.searchLimit⟩ program false 0 ⟨context.frameId, .empty⟩
            (operations record) now reached ∧
          context.watchedOutcome mode program target state moment =
            (.error (.failed .cancelled), { context with frameId := reached.frameId })
  /-- Otherwise the token changes nothing. -/
  spared : (∀ record, context.Poised mode program record →
      record <+: context.watchedExchanges mode program target state moment →
      record.length < moment) →
    operations (context.watchedExchanges mode program target state moment) =
        context.exchanges mode program target state ∧
      context.watchedOutcome mode program target state moment =
        context.outcome mode program target state

/-- Whatever the moment at which its token is set, a run is cut off before the first instruction
that is to be started while the token is set, and nowhere else. -/
theorem cancellation_cuts_between_instructions
    {State : Type} (context : Context) (mode : RunMode) (program : Program)
    (target : Target State) (state : State) (moment : Nat) :
    Interruption context mode program target state moment := by
  have seen : context.watchedExchanges mode program target state moment = _ :=
    context.transcript_run { mode with watched := true } program (target.withToken moment)
      (state, 0)
  have whole : context.exchanges mode program target state = _ :=
    context.transcript_run { mode with watched := false } program target.alone state
  have stopped : context.watchedOutcome mode program target state moment = _ :=
    context.run_run { mode with watched := true } program (target.withToken moment) (state, 0)
  have finished : context.outcome mode program target state = _ :=
    context.run_run { mode with watched := false } program target.alone state
  have cut : ∀ record, context.Poised mode program record →
      record <+: context.watchedExchanges mode program target state moment →
      moment ≤ record.length →
        CutAt ⟨context.binding, mode.searchLimit⟩ program target moment mode.stepLimit 0
          ⟨context.frameId, .empty⟩ state 0 record := by
    intro record poised within set
    rw [seen] at within
    exact cutAt_of_poised rfl state 0 poised within (by omega)
  have spared : (∀ record, context.Poised mode program record →
      record <+: context.watchedExchanges mode program target state moment →
      record.length < moment) →
        SameAt ⟨context.binding, mode.searchLimit⟩ program target moment mode.stepLimit 0
          ⟨context.frameId, .empty⟩ state 0 := by
    intro unset
    refine sameAt_of_unset rfl state 0 fun record poised within => ?_
    rw [← seen] at within
    have early := unset record poised within
    omega
  refine
    { performed := ?performed
      cut := ?cut
      spared := ?spared }
  case performed =>
    by_cases unset : ∀ record, context.Poised mode program record →
        record <+: context.watchedExchanges mode program target state moment →
        record.length < moment
    · have same : operations (context.watchedExchanges mode program target state moment) =
          context.exchanges mode program target state := by
        rw [seen, whole, (spared unset).operations_eq]
      exact same ▸ List.prefix_refl _
    · have overdue : ∃ record, context.Poised mode program record ∧
          record <+: context.watchedExchanges mode program target state moment ∧
          moment ≤ record.length := by
        by_contra none
        exact unset fun record poised within =>
          Nat.lt_of_not_le fun set => none ⟨record, poised, within, set⟩
      obtain ⟨record, poised, within, set⟩ := overdue
      have there := cut record poised within set
      rw [seen, whole, there.transcript_eq, operations_append]
      simpa [operations, isOperation] using there.isPrefix
  case cut =>
    intro record poised within set
    have there := cut record poised within set
    obtain ⟨now, reached, passes, ended⟩ := there.complete
    refine ⟨seen.trans there.transcript_eq, now, reached, passes, ?_⟩
    rw [stopped]
    dsimp only
    rw [ended]
  case spared =>
    intro unset
    have same := spared unset
    constructor
    · rw [seen, whole, same.operations_eq]
    · rw [stopped, finished]
      dsimp only
      rw [same.result_eq]

/-- A call, and then the same call again. -/
def tickTwice : Program :=
  [.invokeStatic "LTimer;" (.ofArity "tick" 0), .pop,
    .invokeStatic "LTimer;" (.ofArity "tick" 0)]

/-- A target that knows a method to call and a frame. -/
def timer : Target Unit := fun operation state =>
  (match operation with
    | .staticMethod _ _ => .ok ⟨5, 6, "tick", "()V", true⟩
    | .invoke _ _ _ _ => .ok (.returned .void)
    | .frame _ _ => .ok ⟨7, ⟨1, 2, 3, 4⟩⟩
    | _ => .error (.failed .staleHandle), state)

/-- The exchanges of the first call. -/
def tickOnce : Record :=
  [⟨.cancelled, false⟩,
    success (.staticMethod "LTimer;" (.ofArity "tick" 0)) ⟨5, 6, "tick", "()V", true⟩,
    success (.invoke 1 none ⟨5, 6, "tick", "()V", true⟩ []) (.returned .void),
    success (.frame 1 0) ⟨7, ⟨1, 2, 3, 4⟩⟩]

/-- The context of a frame with the id seven. -/
def atSeven : Context := ⟨⟨1, 0, ⟨1, 2, 3, 4⟩, .empty⟩, 7⟩

theorem atSeven_poised : atSeven.Poised ⟨true, 5, 2⟩ tickTwice tickOnce := by
  have first : ((turn ⟨⟨1, 0, ⟨1, 2, 3, 4⟩, .empty⟩, 2⟩ tickTwice.length true 0
      (.invokeStatic "LTimer;" (.ofArity "tick" 0))).start ⟨7, .empty⟩).Ends tickOnce
        (.ok 1, ⟨7, ⟨[.void], .empty, .empty, none⟩⟩) :=
    .ask (.ask (.ask (.ask .done)))
  exact ⟨1, _, .pop, .turn rfl first .here, rfl, by decide⟩

/-- The token is set while the first call is under way. -/
theorem cancelled_tick_is_finished :
    atSeven.Poised ⟨true, 5, 2⟩ tickTwice tickOnce ∧
      tickOnce <+: atSeven.watchedExchanges ⟨true, 5, 2⟩ tickTwice timer () 3 ∧
      3 ≤ tickOnce.length ∧
      atSeven.watchedExchanges ⟨true, 5, 2⟩ tickTwice timer () 3 =
        tickOnce ++ [⟨.cancelled, true⟩] ∧
      (atSeven.watchedOutcome ⟨true, 5, 2⟩ tickTwice timer () 3).1 =
        .error (.failed .cancelled) := by
  have within : tickOnce <+: atSeven.watchedExchanges ⟨true, 5, 2⟩ tickTwice timer () 3 :=
    ⟨[⟨.cancelled, true⟩], rfl⟩
  have set : 3 ≤ tickOnce.length := by decide
  obtain ⟨seen, now, reached, -, ended⟩ :=
    (cancellation_cuts_between_instructions atSeven ⟨true, 5, 2⟩ tickTwice timer () 3).cut
      tickOnce atSeven_poised within set
  exact ⟨atSeven_poised, within, set, seen, congrArg Prod.fst ended⟩

end FrameEval
