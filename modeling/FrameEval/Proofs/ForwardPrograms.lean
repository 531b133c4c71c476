import FrameEval.Proofs.Evaluation.Exhaustion
import FrameEval.Proofs.Evaluation.Mutations

/-!
# Programs without backward jumps

If every jump of a program leads onward, the counter grows with each turn.  So no instruction is
executed twice, a run needs no more turns than there are instructions, and what it changes is
bounded by them.  What can hold it up is a single instruction only: an operation that does not
return, or the search of a type hierarchy that has no end.
-/

namespace FrameEval

open Wire Dialogue Evaluation

/-! ## Jumps -/

/-- Where an instruction may jump. -/
def Instruction.target? : Instruction → Option Nat
  | jump target => some target
  | jumpIfTrue target => some target
  | jumpIfFalse target => some target
  | _ => none

theorem Instruction.target?_of_mem_flows
    {instruction : Instruction} {target : Nat} (flows : Flow.jump target ∈ instruction.flows) :
    instruction.target? = some target := by
  cases instruction <;> simp_all [Instruction.flows, Instruction.target?]

/-- Every jump leads to a later instruction, or past all of them. -/
def Program.Forward (program : Program) : Prop :=
  ∀ (counter : Nat) (_ : counter < program.length), ∀ target ∈ program[counter].target?,
    counter < target

instance (program : Program) : Decidable program.Forward :=
  inferInstanceAs (Decidable (∀ (counter : Nat) (_ : counter < program.length), _))

namespace Evaluation

variable {setting : Setting} {program : Program} {watched : Bool} {counter next : Nat}
  {instruction : Instruction} {activation after : Activation} {record : Record}

/-- A completed turn leads onward within the program. -/
theorem lt_next_of_turn
    (forward : program.Forward) (found : program[counter]? = some instruction)
    (ends : ((turn setting program.length watched counter instruction).start activation).Ends
      record (.ok next, after)) :
    counter < next ∧ next ≤ program.length := by
  obtain ⟨within, same⟩ := List.getElem?_eq_some_iff.1 found
  obtain ⟨made, flow, completed⟩ := completed_of_turn ends
  have flows := ((footing_true instruction).of_ends trivial completed.ends).1
  have advances := completed.advances
  cases flow with
  | next =>
      cases advances
      exact ⟨Nat.lt_succ_self counter, within⟩
  | jump target =>
      rw [advance] at advances
      split at advances
      · next inside =>
          cases advances
          refine ⟨forward counter within _ ?_, inside⟩
          rw [same]
          exact Instruction.target?_of_mem_flows flows
      · cases advances

/-! ## No instruction is executed twice -/

section Journals

variable {id : FrameId} {moments : List Moment}

/-- Along a journal the counter grows. -/
theorem Journal.increasing
    (forward : program.Forward)
    (journal : Journal setting program watched id moments record counter activation) :
    (moments.map Moment.counter ++ [counter]).Pairwise (· < ·) ∧ counter ≤ program.length := by
  induction journal with
  | start => exact ⟨List.pairwise_singleton _ _, Nat.zero_le _⟩
  | @turn moments _ _ counter next _ _ _ _ found ends ih =>
      obtain ⟨grows, inside⟩ := lt_next_of_turn forward found ends
      refine ⟨?_, inside⟩
      rw [List.map_append]
      refine List.pairwise_append.2 ⟨ih.1, List.pairwise_singleton _ _, ?_⟩
      intro earlier member last same
      rw [List.mem_singleton.1 same]
      rcases List.mem_append.1 member with before | now
      · exact ((List.pairwise_append.1 ih.1).2.2 _ before _ List.mem_cons_self).trans grows
      · rw [List.mem_singleton.1 now]
        exact grows

/-- There are no more turns than instructions before the counter. -/
theorem Journal.length_le
    (forward : program.Forward)
    (journal : Journal setting program watched id moments record counter activation) :
    moments.length ≤ counter := by
  induction journal with
  | start => exact Nat.zero_le 0
  | turn _ found ends ih =>
      rw [List.length_append]
      exact (Nat.succ_le_succ ih).trans (lt_next_of_turn forward found ends).1

end Journals

/-! ## No limit is met -/

/-- Two runs that may take as many turns as there are instructions left are the same. -/
theorem start_runFrom_eq
    (forward : program.Forward) {limit other : Nat}
    (enough : program.length ≤ counter + limit) (enough' : program.length ≤ counter + other)
    (activation : Activation) :
    (runFrom setting program watched limit counter).start activation =
      (runFrom setting program watched other counter).start activation := by
  induction limit generalizing other counter activation with
  | zero =>
      have beyond : program[counter]? = none := List.getElem?_eq_none_iff.2 enough
      rw [runFrom_beyond beyond, runFrom_beyond beyond]
  | succ limit ih =>
      cases found : program[counter]? with
      | none => rw [runFrom_beyond found, runFrom_beyond found]
      | some instruction =>
          have within := (List.getElem?_eq_some_iff.1 found).1
          obtain ⟨other, rfl⟩ : ∃ less, other = less + 1 :=
            Nat.exists_eq_succ_of_ne_zero (by omega)
          rw [start_runFrom found, start_runFrom found]
          refine bind_congr fun record ended ends => ?_
          rcases ended with ⟨halt | next, between⟩
          · rfl
          · have grows := (lt_next_of_turn forward found ends).1
            exact ih (by omega) (by omega) between

/-! ## Exhaustion -/

/-- A description is exhausted only by an operation that does not return. -/
theorem Told.weary
    {exception : ObjectHandle} (told : Told setting exception record .exhausted) (limit : Nat) :
    Weary limit record := by
  cases told with
  | unnamed => exact @Weary.unreturned limit [] _
  | passed muted final =>
      cases muted with
      | @refused before operation => exact (@Weary.unreturned limit before operation).prepend [_]
  | unread => exact .unreturned

theorem weary_of_turn
    {length : Nat}
    (ends : ((turn setting length watched counter instruction).start activation).Ends
      record (.error .exhausted, after)) :
    Weary setting.searchLimit record := by
  cases broken_of_turn ends with
  | stopped ends => exact (Endures.step setting instruction _ _ _ ends).prepend _
  | thrown told => exact ((told.weary _).prepend _).prepend _

/-! ## Targets -/

/-- A target whose operations all return, with finitely many types of which none tells more than
so many supertypes. -/
structure Prompt {State : Type} (target : (inquiry : Inquiry) → State → inquiry.Answer × State)
    (types : Finset String) (width : Nat) : Prop where
  returns : ∀ operation state, (target (.operation operation) state).1 ≠ .error .exhausted
  finite : ∀ {type state parents},
    (target (.operation (.supertypes type)) state).1 = .ok parents →
      type ∈ types ∧ parents.length ≤ width

/-- With a large enough limit for its searches, nothing is exhausted by such a target. -/
theorem Prompt.not_weary
    {State : Type} {target : (inquiry : Inquiry) → State → inquiry.Answer × State}
    {types : Finset String} {width limit : Nat} (prompt : Prompt target types width)
    (enough : types.card * width < limit) {α : Type}
    (dialogue : Dialogue Inquiry Inquiry.Answer α) (state : State) :
    ¬ Weary limit (dialogue.transcript target state) := by
  intro weary
  refine Nat.not_le.2 enough (weary.limit_le ?_ ?_)
  · intro operation member
    obtain ⟨before, answered⟩ := answered_of_mem_transcript target dialogue state member
    exact prompt.returns operation before answered
  · intro type parents member
    obtain ⟨before, answered⟩ := answered_of_mem_transcript target dialogue state member
    exact prompt.finite answered

end Evaluation

/-! ## Runs -/

/-- How the runs of a program go on and come to an end. -/
structure RunsOnward (context : Context) (mode : RunMode) (program : Program) : Prop where
  /-- The instructions of the turns that were completed, and the next one, have growing
  indices. -/
  increasing : ∀ {moments record counter activation},
    Journal ⟨context.binding, mode.searchLimit⟩ program mode.watched context.frameId
      moments record counter activation →
        (moments.map Moment.counter ++ [counter]).Pairwise (· < ·) ∧ counter ≤ program.length
  /-- A limit of turns changes nothing, unless it is below the number of instructions. -/
  unlimited : ∀ limit, program.length ≤ limit →
    context.run { mode with stepLimit := limit } program =
      context.run { mode with stepLimit := program.length } program
  /-- Then a run is exhausted only by an operation that does not return, or by a search that is
  told of as many types as it may look at. -/
  exhausted : program.length ≤ mode.stepLimit → ∀ {record after},
    (context.run mode program).Ends record (.error .exhausted, after) →
      Weary mode.searchLimit record
  /-- On a target whose operations all return a run comes to a proper end. -/
  ends : program.length ≤ mode.stepLimit →
    ∀ {State : Type} {target : (inquiry : Inquiry) → State → inquiry.Answer × State}
      {types : Finset String} {width : Nat}, Prompt target types width →
        types.card * width < mode.searchLimit → ∀ state,
          ((context.run mode program).run target state).1.1 ≠ .error .exhausted
  /-- Whatever the target answers, a run changes it once for each instruction at most, and once
  more for the detail message of an exception. -/
  spares : ∀ {record result after}, (context.run mode program).Ends record (result, after) →
    ∃ moments parts last told,
      Sparing context mode program record result moments parts last told ∧
        (mutations record).length ≤ program.length + 1

section Runs

variable {context after : Context} {mode : RunMode} {program : Program} {record : Record}
  {result : Except Halt RemoteValue}

/-- The parts add up to the instructions of the program, and the description of an exception. -/
theorem Sparing.length_mutations_le
    {moments : List Moment} {parts : List Record} {last told : Record}
    (sparing : Sparing context mode program record result moments parts last told)
    (forward : program.Forward) :
    (mutations record).length ≤ program.length + 1 := by
  obtain ⟨counter, activation, left, journal, closes⟩ := sparing.closes
  have turns := journal.length_le forward
  have inside := (journal.increasing forward).2
  have earlier := length_mutations_flatten_le (sparing.taken.imp fun _ _ takes => takes.1)
  have described := sparing.aftermath.length_mutations_le
  rw [sparing.record_eq, mutations_append, List.length_append]
  rcases closes.eq_nil_or_lt with past | within
  · rw [past, mutations_nil, List.length_nil]
    omega
  · have single := sparing.single
    rw [mutations_append, List.length_append]
    omega

/-- With as many turns as instructions a run is exhausted in a turn only. -/
theorem weary_of_ends
    (forward : program.Forward) (enough : program.length ≤ mode.stepLimit)
    (ends : (context.run mode program).Ends record (.error .exhausted, after)) :
    Weary mode.searchLimit record := by
  obtain ⟨moments, earlier, last, counter, activation, left, rfl, turns, journal, closes⟩ :=
    Context.closes_of_ends ends
  generalize same : (.error .exhausted : Except Halt RemoteValue) = result at closes
  cases closes with
  | finished beyond =>
      cases value : activation.stack.result with
      | ok value =>
          rw [value] at same
          cases same
      | error error =>
          rw [value] at same
          cases same
  | limited within spent =>
      have few := journal.length_le forward
      omega
  | broken found breaks =>
      cases same
      exact (weary_of_turn breaks).prepend earlier

/-- A program without backward jumps executes no instruction twice, so its runs end without a
limit of turns, and they change the target once for each instruction at most, not counting the
call for the detail message of an exception. -/
theorem forward_program_runs_onward
    (context : Context) (mode : RunMode) {program : Program} (forward : program.Forward) :
    RunsOnward context mode program := by
  refine
    { increasing := fun journal => journal.increasing forward
      unlimited := ?unlimited
      exhausted := fun enough _ _ ends => weary_of_ends forward enough ends
      ends := ?ends
      spares := ?spares }
  case unlimited =>
    intro limit enough
    have same : ∀ activation,
        (runFrom ⟨context.binding, mode.searchLimit⟩ program mode.watched limit 0).start
            activation =
          (runFrom ⟨context.binding, mode.searchLimit⟩ program mode.watched program.length
            0).start activation :=
      start_runFrom_eq forward (by omega) (by omega)
    simp only [Context.run, Context.evaluate, same]
  case ends =>
    intro enough State target types width prompt large state exhausted
    have ended := ends_transcript target (context.run mode program) state
    generalize ((context.run mode program).run target state).1 = result at exhausted ended
    obtain ⟨halted, after⟩ := result
    obtain rfl : halted = .error .exhausted := exhausted
    exact prompt.not_weary large _ state (weary_of_ends forward enough ended)
  case spares =>
    intro record result after ends
    obtain ⟨moments, parts, last, told, sparing⟩ := exists_sparing_of_ends ends
    exact ⟨moments, parts, last, told, sparing, sparing.length_mutations_le forward⟩

end Runs

/-! ### Towers of types -/

/-- A target whose objects are all of the type `LA;`.  What stands above a type is given, and
strings are created; nothing else is granted. -/
def towerTarget
    (above : String → Except Halt (List String)) (inquiry : Inquiry) (state : Unit) :
    inquiry.Answer × Unit :=
  (match inquiry with
    | .cancelled => false
    | .operation (.typeSignature _) => .ok "LA;"
    | .operation (.supertypes type) => above type
    | .operation (.createString _) => .ok (.object ⟨11, ObjectKind.string.tag⟩)
    | .operation _ => .error (.failed .disconnected), state)

theorem towerTarget_returns
    {above : String → Except Halt (List String)} (returns : ∀ type, above type ≠ .error .exhausted)
    (operation : Operation) (state : Unit) :
    (towerTarget above (.operation operation) state).1 ≠ .error .exhausted := by
  cases operation with
  | supertypes type => exact returns type
  | _ => exact nofun

/-- Only `LB;` stands above `LA;`, and of no other type there is anything to tell. -/
def lowTower (type : String) : Except Halt (List String) :=
  if type = "LA;" then .ok ["LB;"] else .error (.failed (.noSuchClass type))

theorem prompt_lowTower : Prompt (towerTarget lowTower) {"LA;"} 1 where
  returns := by
    refine towerTarget_returns fun type => ?_
    rw [lowTower]
    split <;> exact nofun
  finite := by
    intro type state parents told
    change lowTower type = .ok parents at told
    rw [lowTower] at told
    split at told
    · next bottom =>
        cases told
        exact ⟨Finset.mem_singleton.2 bottom, Nat.le_refl 1⟩
    · cases told

/-- A text is created on one of two ways, which the type of an object selects. -/
def chosenText : Program :=
  [.pushLiteral (.object ⟨9, ObjectKind.object.tag⟩), .instanceOf "LB;", .jumpIfFalse 5,
    .pushString "yes", .jump 6, .pushString "no"]

/-- A context without variables. -/
def bareContext : Context := ⟨⟨1, 0, ⟨1, 2, 3, 4⟩, .empty⟩, 7⟩

theorem chosenText_runs_onward :
    chosenText.Forward ∧ RunsOnward bareContext ⟨true, 6, 8⟩ chosenText ∧
      Prompt (towerTarget lowTower) {"LA;"} 1 ∧
      ((bareContext.run ⟨true, 6, 8⟩ chosenText).run (towerTarget lowTower) ()).1.1 ≠
        .error .exhausted := by
  have forward : chosenText.Forward := by decide
  have onward := forward_program_runs_onward bareContext ⟨true, 6, 8⟩ forward
  exact ⟨forward, onward, prompt_lowTower,
    onward.ends (Nat.le_refl 6) prompt_lowTower (by decide) ()⟩

/-! ### A tower without end -/

/-- Above every type stands another one. -/
def endlessTower (type : String) : Except Halt (List String) :=
  .ok ["L" ++ type]

/-- In the endless tower a search sees longer and longer types, and never the one that it looks
for. -/
theorem run_reaches_endless
    {target type : String} {seen : List String} (long : target.length ≤ type.length)
    (other : type ≠ target) (shorter : ∀ earlier ∈ seen, earlier.length < type.length)
    (limit : Nat) (activation : Activation) :
    ((reaches target limit [type] seen).start activation).run (towerTarget endlessTower) () =
      ((.error .exhausted, activation), ()) := by
  induction limit generalizing type seen with
  | zero => rfl
  | succ limit ih =>
      have longer : type.length < ("L" ++ type).length := by
        rw [String.length_append]
        exact Nat.lt_add_of_pos_left (by decide)
      have unseen : type ∉ seen := fun member => Nat.lt_irrefl _ (shorter type member)
      have further : "L" ++ type ≠ target := by
        rintro rfl
        exact Nat.lt_irrefl _ (Nat.lt_of_lt_of_le longer long)
      rw [reaches, if_neg other, if_neg unseen, start_bind, start_perform]
      refine ih (Nat.le_of_lt (Nat.lt_of_le_of_lt long longer)) further fun earlier member => ?_
      rcases List.mem_cons.1 member with rfl | member
      · exact longer
      · exact Nat.lt_trans (shorter earlier member) longer

section

variable {State : Type} {target : (inquiry : Inquiry) → State → inquiry.Answer × State}
  {setting : Setting}

theorem run_start_of_error
    {α β : Type} {evaluation : Evaluation α} {onward : α → Evaluation β}
    {activation after : Activation} {halt : Halt} {state state' : State}
    (halts : (evaluation.start activation).run target state = ((.error halt, after), state')) :
    ((evaluation >>= onward).start activation).run target state =
      ((.error halt, after), state') := by
  rw [start_bind, run_bind, halts]
  rfl

theorem run_runFrom
    {program : Program} {counter limit : Nat} {instruction : Instruction} {watched : Bool}
    {activation : Activation} {state state' : State} {ended : Except Halt Nat × Activation}
    (found : program[counter]? = some instruction)
    (turned : ((turn setting program.length watched counter instruction).start activation).run
      target state = (ended, state')) :
    ((runFrom setting program watched (limit + 1) counter).start activation).run target state =
      (onward setting program watched limit ended).run target state' := by
  rw [start_runFrom found, run_bind, turned]

/-- Whether an object is a `LB;` is not found out in the endless tower. -/
theorem run_turn_endless
    (watched : Bool) (length counter : Nat) (handle : ObjectHandle) (activation : Activation)
    (below : List RemoteValue) :
    ((turn setting length watched counter (.instanceOf "LB;")).start
        (activation.over (.object handle :: below))).run (towerTarget endlessTower) () =
      ((.error .exhausted, activation.over below), ()) := by
  have search := @run_reaches_endless "LB;" "LA;" [] (by decide) (by decide) (by simp)
    setting.searchLimit (activation.over below)
  have asked : ((turn setting length false counter (.instanceOf "LB;")).start
      (activation.over (.object handle :: below))).run (towerTarget endlessTower) () =
        ((.error .exhausted, activation.over below), ()) := by
    rw [start_turn_unwatched]
    apply run_start_of_error
    apply run_start_of_error
    show ((Evaluation.instanceOf setting (.object handle) "LB;" >>= fun result =>
      push (.primitive (.boolean result))).start (activation.over below)).run _ _ = _
    exact run_start_of_error search
  cases watched with
  | false => exact asked
  | true =>
      rw [start_turn_watched]
      exact asked

end

/-- A test whether an object is a `LB;`. -/
def typeTest : Program :=
  [.pushLiteral (.object ⟨9, ObjectKind.object.tag⟩), .instanceOf "LB;"]

/-- All operations return on the endless tower, and no jump of the program leads back, but the
run has not come to an end after any number of turns, and of types looked at. -/
theorem typeTest_never_ends :
    typeTest.Forward ∧
      (∀ operation, (towerTarget endlessTower (.operation operation) ()).1 ≠ .error .exhausted) ∧
      ∀ mode : RunMode,
        ((bareContext.run mode typeTest).run (towerTarget endlessTower) ()).1.1 =
          .error .exhausted := by
  have returns : ∀ type, endlessTower type ≠ .error .exhausted := fun type => nofun
  refine ⟨by decide, (towerTarget_returns returns · ()), fun mode => ?_⟩
  obtain ⟨watched, stepLimit, searchLimit⟩ := mode
  match stepLimit with
  | 0 => rfl
  | 1 => cases watched <;> rfl
  | stepLimit + 2 =>
      let setting : Setting := ⟨bareContext.binding, searchLimit⟩
      let object : RemoteValue := .object ⟨9, ObjectKind.object.tag⟩
      let fresh : Activation := ⟨bareContext.frameId, .empty⟩
      have pushes : ((turn setting typeTest.length watched 0 (.pushLiteral object)).start
          fresh).run (towerTarget endlessTower) () =
            ((.ok 1, fresh.over [object]), ()) := by
        cases watched <;> rfl
      have searches : ((turn setting typeTest.length watched 1 (.instanceOf "LB;")).start
          (fresh.over [object])).run (towerTarget endlessTower) () =
            ((.error .exhausted, fresh.over []), ()) :=
        run_turn_endless watched _ 1 _ fresh []
      have runs : ((runFrom setting typeTest watched (stepLimit + 2) 0).start fresh).run
          (towerTarget endlessTower) () =
            ((.error .exhausted, fresh.over []), ()) :=
        (run_runFrom rfl pushes).trans (run_runFrom rfl searches)
      rw [Context.run, Context.evaluate, run_bind, runs]
      rfl

end FrameEval
