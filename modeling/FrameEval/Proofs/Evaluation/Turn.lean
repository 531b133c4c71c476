import FrameEval.Proofs.Evaluation.Effect

/-!
# Turns and runs

What a sound regime says of one turn of a run and, by induction on the step limit, of a whole
run.  A turn leads from one counter to another, so a regime whose invariant counts operands
needs a number of them for every counter; `Allows` says that the program keeps to these
numbers.

A run that puts a question has completed some turns and is in the middle of another one;
`asks_runFrom` finds it.  Likewise a run that fails has completed some turns and was broken off in
another one, unless it had used up its steps or was left with other than one value; `Broken` lists
the ways, and `ends_runFrom` finds the turn.
-/

namespace FrameEval

namespace Evaluation

open Dialogue Wire

/-- With so many operands at each counter a program keeps within a regime. -/
structure Regime.Allows (regime : Regime) (program : Program) (depth : Nat → Nat) : Prop where
  /-- Below the operands of an instruction there are others, which it leaves alone. -/
  passes : ∀ {counter instruction}, program[counter]? = some instruction →
    ∃ below,
      (∀ {record activation}, regime.holds (depth counter) record activation →
        regime.holds (below + instruction.pops) record activation) ∧
      ∀ next ∈ instruction.successors counter, ∀ {record activation},
        regime.holds (below + instruction.pushes) record activation →
          regime.holds (depth next) record activation
  strays : ∀ {counter target height : Nat} {instruction : Instruction} {record activation},
    program[counter]? = some instruction → Flow.jump target ∈ instruction.flows →
      ¬ target ≤ program.length → regime.holds height record activation →
        ∀ error, regime.stops record (.failed error)
  finishes : ∀ {record activation error},
    regime.holds (depth program.length) record activation →
      activation.stack.result = .error error → regime.stops record (.failed error)

/-- A regime that neither counts operands nor forbids an error allows every program. -/
theorem Regime.allows_of_uncounted
    {regime : Regime} (program : Program)
    (uncounted : ∀ {height other record activation}, regime.holds height record activation →
      regime.holds other record activation)
    (tolerates : ∀ {height record activation}, regime.holds height record activation →
      ∀ error, regime.stops record (.failed error)) :
    regime.Allows program fun _ => 0 where
  passes _ := ⟨0, fun holds => uncounted holds, fun _ _ _ _ holds => uncounted holds⟩
  strays _ _ _ holds := tolerates holds
  finishes holds _ := tolerates holds _

/-- Past its last instruction a run ends with the value that is left. -/
theorem Regime.Allows.finish
    {regime : Regime} {program : Program} {depth : Nat → Nat}
    (allows : regime.Allows program depth) {counter : Nat}
    (inside : counter ≤ program.length) (beyond : program[counter]? = none) :
    Triple regime.toRule (regime.holds (depth counter))
      (do ofExcept (← MonadState.get).stack.result)
      fun record _ activation => regime.holds (depth program.length) record activation := by
  obtain rfl : counter = program.length :=
    Nat.le_antisymm inside (List.getElem?_eq_none_iff.1 beyond)
  refine Triple.reading fun current => ?_
  refine .ofExcept (fun value _ record activation known => known.1)
    fun error failed record activation known => ?_
  rcases known with ⟨holds, rfl⟩
  exact allows.finishes holds failed

namespace Regime.Steady

variable {setting : Setting} {regime : Regime}

/-- Only a run in which nothing was thrown goes on. -/
theorem raiseThrown
    (steady : regime.Steady setting) (height : Nat) :
    Triple regime.toRule (regime.leaves height) (Evaluation.raiseThrown setting)
      fun record _ activation => regime.holds height record activation := by
  rintro record activation (holds | ⟨exception, pending, thrown⟩)
  · rw [start_raiseThrown_none setting (steady.calm holds)]
    exact holds
  · have described := (meets_iff _ _).1
      (raiseThrown_triple setting exception [] activation ⟨rfl, pending⟩)
    refine (meets_iff _ _).2 ⟨fun more asked asks => ?_, fun more ended ends => ?_⟩
    · rcases described.1 more asked asks with ⟨operation, rfl, telling⟩
      exact steady.tells thrown telling
    · rcases ended with ⟨result, after⟩
      cases result with
      | ok value => exact (described.2 more _ ends).elim
      | error halt => exact steady.told thrown (described.2 more _ ends)

/-- A turn without a check leads to a counter inside the program, with the effect of its
instruction. -/
theorem turn
    (steady : regime.Steady setting) {length counter : Nat} {instruction : Instruction}
    (inside : counter < length)
    (strays : ∀ {target height record activation}, Flow.jump target ∈ instruction.flows →
      ¬ target ≤ length → regime.holds height record activation →
        ∀ error, regime.stops record (.failed error))
    (height : Nat) :
    Triple regime.toRule (regime.holds (height + instruction.pops))
      (Evaluation.turn setting length false counter instruction)
      fun record next activation =>
        (next ∈ instruction.successors counter ∧ next ≤ length) ∧
          regime.holds (height + instruction.pushes) record activation := by
  refine (steady.step height instruction).bind fun flow => ?_
  -- The flow is known before the exception is looked at, so it is set aside here.
  intro record activation ⟨flows, left⟩
  refine ((steady.raiseThrown _).bind fun _ => ?_) record activation left
  have reached : flow.successor counter ∈ instruction.successors counter :=
    List.mem_map_of_mem flows
  cases flow with
  | next => exact .pure fun _ _ holds => ⟨⟨reached, inside⟩, holds⟩
  | jump target =>
      by_cases within : target ≤ length
      · rw [advance, if_pos within]
        exact .pure fun _ _ holds => ⟨⟨reached, within⟩, holds⟩
      · rw [advance, if_neg within]
        exact .fail fun _ _ holds => strays flows within holds _

end Regime.Steady

/-- A turn checks for cancellation, if the run is watched, and goes on without a check. -/
theorem turn_eq
    (setting : Setting) (length : Nat) (watched : Bool) (counter : Nat)
    (instruction : Instruction) :
    turn setting length watched counter instruction =
      heedCancellation watched >>= fun _ => turn setting length false counter instruction :=
  rfl

namespace Regime.Sound

variable {setting : Setting} {regime : Regime}

theorem heedCancellation
    (sound : regime.Sound setting) (height : Nat) (watched : Bool) :
    regime.Moves height (Evaluation.heedCancellation watched) height := by
  cases watched with
  | false => exact .pure fun _ _ holds => holds
  | true =>
      have asked : regime.Moves height (Evaluation.inquire .cancelled) height :=
        .inquire (fun _ _ holds => (sound.watches holds).1)
          fun _ _ answer holds => (sound.watches holds).2 answer
      refine asked.bind fun answer => ?_
      cases answer with
      | true => exact sound.fail id
      | false => exact .pure fun _ _ holds => holds

/-- A turn leads to a counter inside the program, with the effect of its instruction. -/
theorem turn
    (sound : regime.Sound setting) {length counter : Nat} {instruction : Instruction}
    (inside : counter < length)
    (strays : ∀ {target height record activation}, Flow.jump target ∈ instruction.flows →
      ¬ target ≤ length → regime.holds height record activation →
        ∀ error, regime.stops record (.failed error))
    (watched : Bool) (height : Nat) :
    Triple regime.toRule (regime.holds (height + instruction.pops))
      (Evaluation.turn setting length watched counter instruction)
      fun record next activation =>
        (next ∈ instruction.successors counter ∧ next ≤ length) ∧
          regime.holds (height + instruction.pushes) record activation := by
  rw [turn_eq]
  refine (sound.heedCancellation _ watched).bind fun _ => ?_
  exact sound.toSteady.turn inside strays height

/-- A turn of a program that keeps within a regime. -/
theorem turnFrom
    (sound : regime.Sound setting) {program : Program} {depth : Nat → Nat}
    (allows : regime.Allows program depth) (watched : Bool)
    {counter : Nat} {instruction : Instruction}
    (found : program[counter]? = some instruction) :
    Triple regime.toRule (regime.holds (depth counter))
      (Evaluation.turn setting program.length watched counter instruction)
      fun record next activation =>
        next ≤ program.length ∧ regime.holds (depth next) record activation := by
  rcases allows.passes found with ⟨below, enters, leaves⟩
  have inside : counter < program.length := (List.getElem?_eq_some_iff.1 found).1
  refine (sound.turn inside (allows.strays found) watched below).weaken
    (fun _ _ holds => enters holds) ?_
  rintro record next activation ⟨⟨reached, within⟩, holds⟩
  exact ⟨within, leaves next reached holds⟩

/-- What one turn preserves, a run of any length preserves. -/
theorem runFrom
    (sound : regime.Sound setting) {program : Program} {depth : Nat → Nat}
    (allows : regime.Allows program depth) (watched : Bool) (limit : Nat)
    {counter : Nat} (inside : counter ≤ program.length) :
    Triple regime.toRule (regime.holds (depth counter))
      (Evaluation.runFrom setting program watched limit counter)
      fun record _ activation => regime.holds (depth program.length) record activation := by
  induction limit generalizing counter with
  | zero =>
      rw [Evaluation.runFrom]
      split
      · next beyond => exact allows.finish inside beyond
      · exact .exhaust fun _ _ holds => sound.exhausts holds
  | succ limit ih =>
      rw [Evaluation.runFrom]
      split
      · next beyond => exact allows.finish inside beyond
      · next instruction found =>
          refine (sound.turnFrom allows watched found).bind fun next => ?_
          rintro record activation ⟨within, holds⟩
          exact ih within record activation holds

end Regime.Sound

/-! ## Runs turn by turn -/

section Onward

variable {setting : Setting} {program : Program}

/-- A turn of a watched run looks at the token, and then it is a turn of any run. -/
theorem start_turn_watched
    (length counter : Nat) (instruction : Instruction) (activation : Activation) :
    (turn setting length true counter instruction).start activation =
      .ask .cancelled fun answer =>
        if answer then .done (.error (.failed .cancelled), activation)
        else (turn setting length false counter instruction).start activation := by
  rw [turn_eq, start_bind]
  change Dialogue.ask _ _ = _
  congr 1
  funext answer
  cases answer <;> rfl

/-- How a run goes on once a turn has ended. -/
def onward
    (setting : Setting) (program : Program) (watched : Bool) (limit : Nat) :
    Except Halt Nat × Activation →
      Dialogue Inquiry Inquiry.Answer (Except Halt RemoteValue × Activation)
  | (.ok next, between) => (runFrom setting program watched limit next).start between
  | (.error halt, between) => .done (.error halt, between)

theorem start_runFrom
    {counter : Nat} {instruction : Instruction} (found : program[counter]? = some instruction)
    (watched : Bool) (limit : Nat) (activation : Activation) :
    (runFrom setting program watched (limit + 1) counter).start activation =
      (turn setting program.length watched counter instruction).start activation >>=
        onward setting program watched limit := by
  rw [runFrom]
  split
  · next beyond =>
      rw [found] at beyond
      cases beyond
  · next same =>
      cases found.symm.trans same
      rw [start_bind]
      congr 1
      funext ended
      rcases ended with ⟨result, between⟩
      cases result with
      | ok next => rfl
      | error halt => rfl

/-- A run that has no instruction to start asks for nothing. -/
theorem runFrom_beyond
    {counter : Nat} (beyond : program[counter]? = none) (watched : Bool) (limit : Nat) :
    runFrom setting program watched limit counter =
      (do ofExcept (← MonadState.get).stack.result) := by
  cases limit <;> simp only [runFrom, beyond]

end Onward

/-! ## The turn in progress -/

variable (setting : Setting) (program : Program) (watched : Bool)

/-- The exchanges of completed turns, from one counter and activation to another. -/
inductive Passes : Nat → Activation → Record → Nat → Activation → Prop where
  | here {counter : Nat} {activation : Activation} :
      Passes counter activation [] counter activation
  | turn
      {counter next last : Nat} {activation between final : Activation}
      {instruction : Instruction} {first rest : Record}
      (found : program[counter]? = some instruction)
      (ends : ((turn setting program.length watched counter instruction).start
        activation).Ends first (.ok next, between))
      (passes : Passes next between rest last final) :
      Passes counter activation (first ++ rest) last final

/-- At a question of a run, which exchanges are those of the turn in progress. -/
inductive InTurn (counter : Nat) (activation : Activation) :
    Record → Record → Inquiry → Prop where
  | intro
      {earlier current : Record} {now : Nat} {reached : Activation}
      {instruction : Instruction} {asked : Inquiry}
      (passes : Passes setting program watched counter activation earlier now reached)
      (found : program[now]? = some instruction)
      (asks : ((turn setting program.length watched now instruction).start reached).Asks
        current asked) :
      InTurn counter activation (earlier ++ current) current asked

variable {setting program watched}

/-- Completed turns preserve what each of them preserves. -/
theorem Regime.Sound.passes
    {regime : Regime} (sound : regime.Sound setting) {depth : Nat → Nat}
    (allows : regime.Allows program depth)
    {counter last : Nat} {activation final : Activation} {more : Record}
    (passes : Passes setting program watched counter activation more last final)
    (record : Record) (inside : counter ≤ program.length)
    (holds : regime.holds (depth counter) record activation) :
    last ≤ program.length ∧ regime.holds (depth last) (record ++ more) final := by
  induction passes generalizing record with
  | here => exact ⟨inside, by simpa using holds⟩
  | @turn counter next _ activation between _ _ first _ found ends _ ih =>
      have turned := (meets_iff _ _).1
        (sound.turnFrom allows watched found record activation holds)
      rcases turned.2 first _ ends with ⟨within, still⟩
      rw [← List.append_assoc]
      exact ih _ within still

/-- Past its last instruction a run puts no question. -/
theorem not_asks_result
    (activation : Activation) (record : Record) (asked : Inquiry) :
    ¬ ((do ofExcept (← MonadState.get).stack.result :
      Evaluation RemoteValue).start activation).Asks record asked := by
  show ¬ ((ofExcept activation.stack.result).start activation).Asks record asked
  cases activation.stack.result with
  | ok value => exact not_asks_done _ _ _
  | error error => exact not_asks_done _ _ _

/-- A question of a run is one of the turn that is then in progress. -/
theorem asks_runFrom
    {limit counter : Nat} {activation : Activation} {record : Record} {asked : Inquiry}
    (asks : ((runFrom setting program watched limit counter).start activation).Asks
      record asked) :
    ∃ current, InTurn setting program watched counter activation record current asked := by
  induction limit generalizing counter activation record with
  | zero =>
      rw [runFrom] at asks
      split at asks
      · exact (not_asks_result _ _ _ asks).elim
      · exact (not_asks_done _ _ _ asks).elim
  | succ limit ih =>
      rw [runFrom] at asks
      split at asks
      · exact (not_asks_result _ _ _ asks).elim
      · next instruction found =>
          rw [start_bind, asks_bind_iff] at asks
          rcases asks with within | ⟨first, ⟨result, between⟩, second, rfl, ends, beyond⟩
          · exact ⟨record, .intro .here found within⟩
          · cases result with
            | error halt => exact (not_asks_done _ _ _ beyond).elim
            | ok next =>
                rcases ih beyond with ⟨current, passes, later, within⟩
                refine ⟨current, ?_⟩
                rw [← List.append_assoc]
                exact .intro (.turn found ends passes) later within

/-! ## What a turn is made of -/

section Parts

variable {length counter : Nat} {instruction : Instruction} {activation after : Activation}
  {record : Record}

/-- The exchange with which a turn begins if the run is watched. -/
def passedCheck : Bool → Record
  | true => [⟨.cancelled, false⟩]
  | false => []

/-- A turn ends at its check, or as it does in a run that is not watched. -/
theorem ends_turn_iff
    {ended : Except Halt Nat × Activation} :
    ((turn setting length watched counter instruction).start activation).Ends record ended ↔
      (watched = true ∧ record = [⟨.cancelled, true⟩] ∧
        ended = (.error (.failed .cancelled), activation)) ∨
      ∃ made, record = passedCheck watched ++ made ∧
        ((turn setting length false counter instruction).start activation).Ends made ended := by
  cases watched with
  | false => simp [passedCheck]
  | true =>
      rw [start_turn_watched]
      constructor
      · intro ends
        cases ends with
        | @ask _ _ answer made _ rest =>
            cases answer with
            | true =>
                obtain ⟨rfl, rfl⟩ := (ends_done_iff _ _ _).1 rest
                exact .inl ⟨rfl, rfl, rfl⟩
            | false => exact .inr ⟨made, rfl, rest⟩
      · rintro (⟨-, rfl, rfl⟩ | ⟨made, rfl, ends⟩)
        · exact .ask .done
        · exact .ask ends

/-- A turn asks for the check, or what it asks in a run that is not watched. -/
theorem asks_turn_iff
    {asked : Inquiry} :
    ((turn setting length watched counter instruction).start activation).Asks record asked ↔
      (watched = true ∧ record = [] ∧ asked = .cancelled) ∨
      ∃ made, record = passedCheck watched ++ made ∧
        ((turn setting length false counter instruction).start activation).Asks made asked := by
  cases watched with
  | false => simp [passedCheck]
  | true =>
      rw [start_turn_watched]
      constructor
      · intro asks
        cases asks with
        | here => exact .inl ⟨rfl, rfl, rfl⟩
        | @later _ _ _ answer made rest =>
            cases answer with
            | true => exact (not_asks_done _ _ _ rest).elim
            | false => exact .inr ⟨made, rfl, rest⟩
      · rintro (⟨-, rfl, rfl⟩ | ⟨made, rfl, asks⟩)
        · exact .here
        · exact .later asks

/-- With an exception pending, every question is one of its description. -/
theorem asks_raiseThrown
    {asked : Inquiry} (asks : ((raiseThrown setting).start activation).Asks record asked) :
    ∃ exception operation, asked = .operation operation ∧
      Telling setting exception record operation := by
  cases pending : activation.stack.exception with
  | none =>
      rw [start_raiseThrown_none setting pending] at asks
      exact (not_asks_done _ _ _ asks).elim
  | some exception =>
      obtain ⟨puts, -⟩ := (meets_iff _ _).1
        (raiseThrown_triple setting exception [] activation ⟨rfl, pending⟩)
      exact ⟨exception, puts record asked asks⟩

theorem ends_raiseThrown
    {halt : Halt}
    (ends : ((raiseThrown setting).start activation).Ends record (.error halt, after)) :
    ∃ exception, Told setting exception record halt := by
  cases pending : activation.stack.exception with
  | none =>
      rw [start_raiseThrown_none setting pending] at ends
      obtain ⟨-, same⟩ := (ends_done_iff _ _ _).1 ends
      cases same
  | some exception =>
      obtain ⟨-, stops⟩ := (meets_iff _ _).1
        (raiseThrown_triple setting exception [] activation ⟨rfl, pending⟩)
      exact ⟨exception, stops record _ ends⟩

/-- Only where nothing was thrown does a turn go on. -/
theorem of_ends_raiseThrown
    (ends : ((raiseThrown setting).start activation).Ends record (.ok (), after)) :
    record = [] ∧ after = activation ∧ activation.stack.exception = none := by
  cases pending : activation.stack.exception with
  | some exception =>
      obtain ⟨-, returns⟩ := (meets_iff _ _).1
        (raiseThrown_triple setting exception [] activation ⟨rfl, pending⟩)
      exact (returns record _ ends).elim
  | none =>
      rw [start_raiseThrown_none setting pending] at ends
      cases ends
      exact ⟨rfl, rfl, rfl⟩

theorem start_turn_unwatched :
    (turn setting length false counter instruction).start activation =
      (step setting instruction >>= fun flow =>
        raiseThrown setting >>= fun _ => ofExcept (advance length counter flow)).start
          activation := rfl

theorem not_asks_ofExcept
    {α : Type} {result : Except EvalError α} {asked : Inquiry} :
    ¬ ((ofExcept result).start activation).Asks record asked := by
  cases result <;> exact not_asks_done _ _ _

/-- Beyond the check, a question is one of the instruction, or one of the description of the
exception that it has thrown. -/
theorem asks_turn_unwatched
    {asked : Inquiry}
    (asks : ((turn setting length false counter instruction).start activation).Asks
      record asked) :
    ((step setting instruction).start activation).Asks record asked ∨
      ∃ exception more operation, asked = .operation operation ∧
        Telling setting exception more operation := by
  rw [start_turn_unwatched, asks_start_bind_iff] at asks
  obtain executes | ⟨made, flow, between, rest, rfl, -, asks⟩ := asks
  · exact .inl executes
  rw [asks_start_bind_iff] at asks
  obtain describes | ⟨_, _, _, _, -, -, beyond⟩ := asks
  · obtain ⟨exception, operation, same, telling⟩ := asks_raiseThrown describes
    exact .inr ⟨exception, rest, operation, same, telling⟩
  · exact (not_asks_ofExcept beyond).elim

/-- A question of a turn is the check before it, or one of its instruction, or one of the
description of the exception that this has thrown. -/
theorem asks_turn
    {asked : Inquiry}
    (asks : ((turn setting length watched counter instruction).start activation).Asks
      record asked) :
    asked = .cancelled ∨
      (∃ made, record = passedCheck watched ++ made ∧
        ((step setting instruction).start activation).Asks made asked) ∨
      ∃ exception more operation, asked = .operation operation ∧
        Telling setting exception more operation := by
  obtain ⟨-, -, rfl⟩ | ⟨made, rfl, unwatched⟩ := asks_turn_iff.1 asks
  · exact .inl rfl
  · exact .inr ((asks_turn_unwatched unwatched).imp_left fun executes => ⟨made, rfl, executes⟩)

variable (setting watched instruction activation) in
/-- The ways in which a turn ends a run. -/
inductive Broken : Record → Halt → Prop where
  | cancelled : Broken [⟨.cancelled, true⟩] (.failed .cancelled)
  | stopped
      {made : Record} {halt : Halt} {after : Activation}
      (ends : ((step setting instruction).start activation).Ends made (.error halt, after)) :
      Broken (passedCheck watched ++ made) halt
  | thrown
      {made more : Record} {exception : ObjectHandle} {halt : Halt}
      (told : Told setting exception more halt) :
      Broken (passedCheck watched ++ (made ++ more)) halt
  /-- The instruction jumped outside the program. -/
  | astray {record : Record} {detail : String} : Broken record (.failed (.malformedSequence detail))

theorem broken_of_unwatched
    {halt : Halt}
    (ends : ((turn setting length false counter instruction).start activation).Ends
      record (.error halt, after)) :
    Broken setting watched instruction activation (passedCheck watched ++ record) halt := by
  rw [start_turn_unwatched, ends_start_bind_iff] at ends
  obtain ⟨other, between, stops, same⟩ | ⟨made, flow, between, rest, rfl, -, ends⟩ := ends
  · cases same
    exact .stopped stops
  rw [ends_start_bind_iff] at ends
  obtain ⟨other, final, tells, same⟩ | ⟨more, _, final, last, rfl, -, strays⟩ := ends
  · cases same
    obtain ⟨exception, told⟩ := ends_raiseThrown tells
    exact .thrown told
  · cases flow with
    | next => cases strays
    | jump target =>
        rw [advance] at strays
        split at strays
        · cases strays
        · cases strays
          exact .astray

/-- A turn that ends a run was broken off in one of these ways. -/
theorem broken_of_turn
    {halt : Halt}
    (ends : ((turn setting length watched counter instruction).start activation).Ends
      record (.error halt, after)) :
    Broken setting watched instruction activation record halt := by
  obtain ⟨-, rfl, same⟩ | ⟨made, rfl, unwatched⟩ := ends_turn_iff.1 ends
  · cases same
    exact .cancelled
  · exact broken_of_unwatched unwatched

/-- Past its last instruction a run fails only if other than one value is left. -/
theorem ends_result
    {halt : Halt}
    (ends : ((do ofExcept (← MonadState.get).stack.result :
      Evaluation RemoteValue).start activation).Ends record (.error halt, after)) :
    ∃ size, halt = .failed (.malformedResult size) := by
  have finished : ((ofExcept activation.stack.result).start activation).Ends record
      (.error halt, after) := ends
  cases left : activation.stack.result with
  | ok value =>
      rw [left] at finished
      cases finished
  | error error =>
      rw [left] at finished
      cases finished
      unfold OperandStack.result at left
      split at left
      · cases left
      · cases left
        exact ⟨_, rfl⟩

/-- A run that stops early has used up its steps, or finds other than one value in the end, or
is broken off in a turn. -/
theorem ends_runFrom
    {limit : Nat} {halt : Halt}
    (ends : ((runFrom setting program watched limit counter).start activation).Ends
      record (.error halt, after)) :
    halt = .exhausted ∨ (∃ size, halt = .failed (.malformedResult size)) ∨
      ∃ earlier current now reached instruction, record = earlier ++ current ∧
        Passes setting program watched counter activation earlier now reached ∧
        program[now]? = some instruction ∧
        Broken setting watched instruction reached current halt := by
  induction limit generalizing counter activation record with
  | zero =>
      rw [runFrom] at ends
      split at ends
      · exact .inr (.inl (ends_result ends))
      · cases ends
        exact .inl rfl
  | succ limit ih =>
      rw [runFrom] at ends
      split at ends
      · exact .inr (.inl (ends_result ends))
      · next instruction found =>
          rw [ends_start_bind_iff] at ends
          obtain ⟨other, between, breaks, same⟩ | ⟨first, next, between, rest, rfl, passed, ends⟩ :=
            ends
          · cases same
            exact .inr (.inr ⟨[], record, counter, activation, instruction, rfl, .here, found,
              broken_of_turn breaks⟩)
          · obtain exhausted | short |
              ⟨earlier, current, now, reached, last, rfl, passes, later, broken⟩ := ih ends
            · exact .inl exhausted
            · exact .inr (.inl short)
            · rw [← List.append_assoc]
              exact .inr (.inr ⟨first ++ earlier, current, now, reached, last, rfl,
                .turn found passed passes, later, broken⟩)

end Parts

end Evaluation

/-! ## Runs in a context -/

namespace Context

open Dialogue Evaluation

variable {α : Type} (context : Context) (searchLimit : Nat) (evaluation : Setting → Evaluation α)

theorem asks_evaluate_iff
    (record : Record) (asked : Inquiry) :
    (context.evaluate searchLimit evaluation).Asks record asked ↔
      ((evaluation ⟨context.binding, searchLimit⟩).start ⟨context.frameId, .empty⟩).Asks
        record asked := by
  rw [evaluate]
  rw [asks_bind_iff]
  constructor
  · rintro (asks | ⟨first, ended, second, rfl, ends, impossible⟩)
    · exact asks
    · exact (not_asks_done _ _ _ impossible).elim
  · exact .inl

theorem ends_evaluate_iff
    (record : Record) (result : Except Halt α) (after : Context) :
    (context.evaluate searchLimit evaluation).Ends record (result, after) ↔
      ∃ activation,
        ((evaluation ⟨context.binding, searchLimit⟩).start ⟨context.frameId, .empty⟩).Ends
          record (result, activation) ∧
        after = { context with frameId := activation.frameId } := by
  rw [evaluate]
  rw [ends_bind_iff]
  constructor
  · rintro ⟨first, ⟨result', activation⟩, second, rfl, ends, closed⟩
    rcases (ends_done_iff _ _ _).1 closed with ⟨rfl, same⟩
    cases same
    exact ⟨activation, by simpa using ends, rfl⟩
  · rintro ⟨activation, ends, rfl⟩
    exact ⟨record, (result, activation), [], by simp, ends, .done⟩

/-- What a sound regime says of a whole run, from its first question to its end. -/
theorem run_meets
    {regime : Regime} {mode : RunMode} {program : Program} {depth : Nat → Nat}
    (sound : regime.Sound ⟨context.binding, mode.searchLimit⟩)
    (allows : regime.Allows program depth)
    (start : regime.holds (depth 0) [] ⟨context.frameId, .empty⟩) :
    (∀ record asked, (context.run mode program).Asks record asked →
      regime.asks record asked) ∧
    (∀ record halt after, (context.run mode program).Ends record (.error halt, after) →
      regime.stops record halt) ∧
    (∀ record value after, (context.run mode program).Ends record (.ok value, after) →
      ∃ activation, regime.holds (depth program.length) record activation) := by
  have whole := (meets_iff _ _).1 (sound.runFrom allows mode.watched mode.stepLimit
    (Nat.zero_le _) [] ⟨context.frameId, .empty⟩ start)
  refine ⟨fun record asked asks => ?_, fun record halt after ends => ?_,
    fun record value after ends => ?_⟩
  · exact whole.1 record asked ((context.asks_evaluate_iff _ _ _ _).1 asks)
  · rcases (context.ends_evaluate_iff _ _ _ _ _).1 ends with ⟨activation, ends, -⟩
    exact whole.2 record _ ends
  · rcases (context.ends_evaluate_iff _ _ _ _ _).1 ends with ⟨activation, ends, -⟩
    exact ⟨activation, whole.2 record _ ends⟩

end Context

end FrameEval
