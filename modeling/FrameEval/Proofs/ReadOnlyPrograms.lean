import FrameEval.Proofs.ProgramLocals
import FrameEval.Proofs.Remote.Inspection
import FrameEval.Server.Evaluation
import FrameEval.World.Answer

/-!
# Programs that only read

A program whose instructions only look at the target leaves it as it is.  An instruction that
stores in a local is harmless too, if the program has declared the local on every way to it; on
such a way the store is one of the program's own, and the target is not asked.

The ways are those that the instructions allow, `Route`.  The journal of a run takes one of them.
-/

namespace FrameEval

open Wire Dialogue

/-- Whether an instruction only looks at the target, whatever its operands are. -/
def Instruction.onlyReads : Instruction → Bool
  | pushString _ => false
  | newArray _ => false
  | arrayStore => false
  | fieldSet _ => false
  | staticFieldSet _ _ => false
  | storeLocal _ => false
  | invoke _ => false
  | invokeStatic _ _ => false
  | new _ _ => false
  | _ => true

theorem Instruction.codeless_of_onlyReads
    {instruction : Instruction} (reads : instruction.onlyReads = true) :
    instruction.runsCode = false := by
  cases instruction <;> first
    | rfl
    | cases reads

namespace Program

/-- From the start of a program instructions lead to a counter; the counters of those that were
passed are listed, the first one first. -/
inductive Route (program : Program) : List Nat → Nat → Prop where
  | start : Route program [] 0
  | onward
      {passed : List Nat} {counter next : Nat} {instruction : Instruction}
      (route : Route program passed counter) (found : program[counter]? = some instruction)
      (follows : next ∈ instruction.successors counter) :
      Route program (passed ++ [counter]) next

/-- Every way to a counter passes a declaration of a name. -/
def DeclaredBefore (program : Program) (name : String) (counter : Nat) : Prop :=
  ∀ passed, Route program passed counter →
    ∃ earlier ∈ passed, program[earlier]? = some (.declareLocal name)

/-- A program has only instructions that look at the target, and stores in locals that it has
declared before. -/
def OnlyReads (program : Program) : Prop :=
  ∀ counter instruction, program[counter]? = some instruction →
    instruction.onlyReads = true ∨
      ∃ name, instruction = .storeLocal name ∧ DeclaredBefore program name counter

/-- A program without any store is one of them. -/
theorem onlyReads_of_all
    {program : Program} (reads : ∀ instruction ∈ program, instruction.onlyReads = true) :
    program.OnlyReads :=
  fun _ instruction found => .inl (reads instruction (List.mem_of_getElem? found))

/-- A declaration that no instruction before it leads past is passed on every way to a later
counter. -/
theorem declaredBefore_of_barrier
    {program : Program} {name : String} {counter : Nat} (barrier : Nat)
    (declares : program[barrier]? = some (.declareLocal name))
    (bars : ∀ earlier instruction, earlier < barrier → program[earlier]? = some instruction →
      ∀ next ∈ instruction.successors earlier, next ≤ barrier)
    (later : barrier < counter) : program.DeclaredBefore name counter := by
  have stays : ∀ passed reached, Route program passed reached →
      reached ≤ barrier ∨ barrier ∈ passed := by
    intro passed reached route
    induction route with
    | start => exact .inl (Nat.zero_le _)
    | @onward passed reached next instruction _ found follows ih =>
        rcases ih with inside | beyond
        · rcases Nat.lt_or_eq_of_le inside with before | rfl
          · exact .inl (bars reached instruction before found next follows)
          · exact .inr (List.mem_append_right _ (List.mem_singleton_self _))
        · exact .inr (List.mem_append_left _ beyond)
  intro passed route
  rcases stays passed counter route with inside | beyond
  · omega
  · exact ⟨barrier, beyond, declares⟩

end Program

namespace Evaluation

variable {setting : Setting} {program : Program} {watched : Bool} {id : FrameId}
  {moments : List Moment} {record : Record} {counter : Nat} {activation : Activation}

/-- A run takes a way that its instructions allow. -/
theorem Journal.route
    (journal : Journal setting program watched id moments record counter activation) :
    program.Route (moments.map Moment.counter) counter := by
  induction journal with
  | start => exact .start
  | @turn moments _ _ counter next _ _ instruction _ found ends ih =>
      obtain ⟨made, flow, completed⟩ := completed_of_turn ends
      have flows := ((footing_true instruction).of_ends trivial completed.ends).1
      have reached : next = flow.successor counter := by
        have advances := completed.advances
        cases flow with
        | next =>
            cases advances
            rfl
        | jump target =>
            rw [advance] at advances
            split at advances
            · cases advances
              rfl
            · cases advances
      rw [List.map_append, reached]
      exact .onward ih found (List.mem_map_of_mem flows)

theorem inspects_of_mayPut
    {binding : Binding} {instruction : Instruction} {operation : Operation}
    (put : MayPut binding id instruction operation) (reads : instruction.onlyReads = true) :
    operation.inspects = true := by
  cases put with
  | refetch runsCode =>
      rw [Instruction.codeless_of_onlyReads reads] at runsCode
      cases runsCode
  | createString | setFrameValue | lengthToStore | arraySet | newArray | fieldToSet | setField
  | staticFieldToSet | setStaticField | instanceMethod | invoke | staticMethod | invokeStatic
  | constructor | newInstance => cases reads
  | thisObject | frameValues | typeSignature | supertypes | lengthToLoad | arrayGet | arrayLength
  | lengthAsField | fieldToGet | getField | staticFieldToGet | getStaticField => rfl

end Evaluation

open Evaluation

/-- What a program that only reads asks. -/
theorem inspects_of_asks
    {context : Context} {mode : RunMode} {program : Program} (reads : program.OnlyReads)
    {record : Record} {asked : Inquiry} (asks : (context.run mode program).Asks record asked) :
    asked = .cancelled ∨
      ∃ operation, asked = .operation operation ∧ operation.inspects = true := by
  obtain ⟨moments, before, current, counter, activation, instruction, -, journal, found, within⟩ :=
    Context.journal_of_asks asks
  rcases reads counter instruction found with harmless | ⟨name, rfl, declared⟩
  · rcases asks_codeless_turn journal.calm (Instruction.codeless_of_onlyReads harmless) within with
      check | ⟨made, executes⟩
    · exact .inl check
    · obtain ⟨operation, rfl, put⟩ := mayPut_of_asks executes
      exact .inr ⟨operation, rfl, inspects_of_mayPut put harmless⟩
  · rcases asks_codeless_turn journal.calm rfl within with check | ⟨made, executes⟩
    · exact .inl check
    · -- The way that the run took has passed a declaration, so the store is the program's own.
      obtain ⟨earlier, passed, declares⟩ := declared _ journal.route
      obtain ⟨moment, member, rfl⟩ := List.mem_map.1 passed
      have declaration : moment.instruction = .declareLocal name :=
        Option.some.inj ((journal.found moment member).symm.trans declares)
      obtain ⟨first, later, rfl⟩ := List.append_of_mem member
      obtain ⟨initial, -, held, bound, conveys, -⟩ := journal.follows rfl declaration
      exact ((namesLocal_of_some bound conveys).not_asks (by simp) asked executes).elim

/-! ## Worlds -/

/-- An operation that looks at a world leaves all of it but the log. -/
theorem World.answer_of_inspects
    (world : World) {operation : Operation} (inspects : operation.inspects = true) :
    ∃ log, (world.answer operation).2 = { world with log := log } := by
  rw [World.answer]
  split
  · refine ⟨operation.label :: world.log, ?_⟩
    cases operation with
    | thisObject | frameValues | typeSignature | supertypes | arrayLength | arrayGet
    | instanceField | staticField | getField => rfl
    | frame | variableTable | setFrameValue | createString | stringValue | arraySet | newArray
    | setField | instanceMethod | staticMethod | constructor | invoke | newInstance =>
        cases inspects
  · exact ⟨world.log, rfl⟩

/-- A dialogue that only looks at a world leaves all of it but the log. -/
theorem World.run_of_inspects
    {α : Type} {dialogue : Dialogue Inquiry Inquiry.Answer α}
    (inspects : ∀ record asked, dialogue.Asks record asked → asked = .cancelled ∨
      ∃ operation, asked = .operation operation ∧ operation.inspects = true)
    (world : World) :
    ∃ log, (dialogue.run World.handle world).2 = { world with log := log } := by
  induction dialogue generalizing world with
  | done result => exact ⟨world.log, rfl⟩
  | ask question next ih =>
      have kept : ∃ log, (World.handle question world).2 = { world with log := log } := by
        rcases inspects [] question .here with rfl | ⟨operation, rfl, looks⟩
        · exact ⟨world.log, rfl⟩
        · exact world.answer_of_inspects looks
      obtain ⟨log, same⟩ := kept
      obtain ⟨final, ended⟩ := ih (World.handle question world).1
        (fun record asked asks => inspects _ asked (.later asks)) (World.handle question world).2
      refine ⟨final, ?_⟩
      rw [same] at ended
      exact (congrArg (fun before => ((next (World.handle question world).1).run World.handle
        before).2) same).trans ended

/-! ## Links -/

/-- What is asked over a link to answer a look at the target. -/
theorem Server.Handling.asks_inquiry
    {setup : Setup} {link : LinkId} {operation : Operation}
    (inspects : operation.inspects = true) {record : Dialogue.Record Query.Answer} {query : Query}
    (asks : (inquiry setup link (.operation operation)).Asks record query) :
    ∃ request, query = .plain (.overLink link request) ∧ request.inspects := by
  obtain ⟨before, request, part, puts, within⟩ := asks_substitute _ _ asks
  refine ⟨request, ?_, Remote.inspecting_answer setup.usage inspects before request puts⟩
  cases within with
  | here => rfl
  | later rest => exact (not_asks_done _ _ _ rest).elim

open Server in
/-- How the runs of a program leave their targets. -/
structure LeavesTarget (context : Context) (mode : RunMode) (program : Program) : Prop where
  /-- A run asks nothing else, however it ends. -/
  asks : ∀ {record asked}, (context.run mode program).Asks record asked → asked = .cancelled ∨
    ∃ operation, asked = .operation operation ∧ operation.inspects = true
  /-- A world is the same as before, the log apart. -/
  world : ∀ world : World, ∃ log,
    ((context.run mode program).run World.handle world).2 = { world with log := log }
  /-- Over a link only requests are made that read, or concern what is known of types. -/
  requests : ∀ {setup link record query},
    ((context.run mode program).substitute (Handling.inquiry setup link)).Asks record query →
      query = .plain .isCancelled ∨
        ∃ request, query = .plain (.overLink link request) ∧ request.inspects
  /-- What is sent changes nothing. -/
  orders : ∀ {setup link record order},
    ((context.run mode program).substitute (Handling.inquiry setup link)).Asks record
      (.plain (.overLink link (.send order))) → order.reads ∧ ¬ Alteration order

/-- A program that only looks at its target leaves it as it is. -/
theorem reading_program_leaves_target
    (context : Context) (mode : RunMode) {program : Program} (reads : program.OnlyReads) :
    LeavesTarget context mode program := by
  have requests : ∀ {setup link record query},
      ((context.run mode program).substitute (Server.Handling.inquiry setup link)).Asks record
        query → query = .plain .isCancelled ∨
          ∃ request, query = .plain (.overLink link request) ∧ request.inspects := by
    intro setup link record query asks
    obtain ⟨before, asked, part, puts, within⟩ := asks_substitute _ _ asks
    rcases inspects_of_asks reads puts with rfl | ⟨operation, rfl, inspects⟩
    · cases within with
      | here => exact .inl rfl
      | later rest => exact (not_asks_done _ _ _ rest).elim
    · exact .inr (Server.Handling.asks_inquiry inspects within)
  refine
    { asks := inspects_of_asks reads
      world := World.run_of_inspects fun _ _ => inspects_of_asks reads
      requests := requests
      orders := ?orders }
  case orders =>
    intro setup link record order asks
    rcases requests asks with impossible | ⟨request, same, inspects⟩
    · cases impossible
    · cases same
      exact ⟨inspects, fun alters => alters.not_reads inspects⟩

/-- Count in a local of the program until a variable of the frame is reached, and then read a
field of the receiver. -/
def countUp : Program :=
  [.pushLiteral (.int 0), .declareLocal "i", .pushLocal "i", .pushLiteral (.int 1), .binary .add,
    .storeLocal "i", .pushLocal "i", .pushLocal "limit", .binary .lt, .jumpIfTrue 2, .pushThis,
    .fieldGet "count"]

theorem countUp_onlyReads : countUp.OnlyReads := by
  have declared : countUp.DeclaredBefore "i" 5 := by
    refine Program.declaredBefore_of_barrier 1 rfl ?_ (by decide)
    intro earlier instruction before found next follows
    obtain rfl := Nat.lt_one_iff.1 before
    cases found
    exact Nat.le_of_eq (List.mem_singleton.1 follows)
  rintro (_ | _ | _ | _ | _ | _ | _ | _ | _ | _ | _ | _ | counter) instruction ⟨⟩ <;> first
    | exact .inl rfl
    | exact .inr ⟨"i", rfl, declared⟩

/-- A frame with the variable that the loop looks at. -/
def loopFrame : Context :=
  ⟨⟨1, 0, ⟨1, 2, 3, 4⟩, Table.empty.insert "limit" ⟨0, "I"⟩⟩, 7⟩

/-- The program has stored in its local when it asks for the first time. -/
theorem countUp_leaves_target :
    countUp.OnlyReads ∧
      (loopFrame.run ⟨false, 100, 100⟩ countUp).Asks [] (.operation (.frameValues 1 7 [⟨0, "I"⟩])) ∧
      LeavesTarget loopFrame ⟨false, 100, 100⟩ countUp :=
  ⟨countUp_onlyReads, .here,
    reading_program_leaves_target loopFrame ⟨false, 100, 100⟩ countUp_onlyReads⟩

end FrameEval
