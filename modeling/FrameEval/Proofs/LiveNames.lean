import FrameEval.Proofs.FrameAccess
import FrameEval.Proofs.ProgramLocals
import Mathlib.Data.Finset.Card

/-!
# Names of live variables

The variable table of a method may list a name many times, for scopes that follow each other or
lie within each other, and these may share a slot.  Of the entries that have a name and are live
where a frame stands, the symbol table keeps the last one.  An instruction that names a local of
the frame reads or writes the slot of this entry, and if there is no such entry it fails before
it asks for anything.
-/

namespace FrameEval

open Wire Dialogue

/-! ## Live entries -/

namespace Wire.Variable

/-- A code index is one of those at which a variable is live, the last one excluded. -/
def Covers (entry : Variable) (index : UInt64) : Prop :=
  entry.codeIndex.toNat ≤ index.toNat ∧
    index.toNat < entry.codeIndex.toNat + entry.length.toNat

instance (entry : Variable) (index : UInt64) : Decidable (entry.Covers index) :=
  inferInstanceAs (Decidable (_ ∧ _))

/-- The scope of a variable ends at a code index, so it does not wrap around. -/
def Bounded (entry : Variable) : Prop :=
  entry.codeIndex.toNat + entry.length.toNat < UInt64.size

instance (entry : Variable) : Decidable entry.Bounded :=
  inferInstanceAs (Decidable (_ < _))

theorem isLiveAt_eq {entry : Variable} (bounded : entry.Bounded) (index : UInt64) :
    entry.isLiveAt index = decide (entry.Covers index) := by
  have fits : (entry.codeIndex + entry.length.toUInt64).toNat =
      entry.codeIndex.toNat + entry.length.toNat := by
    rw [UInt64.toNat_add, UInt32.toNat_toUInt64]
    exact Nat.mod_eq_of_lt bounded
  rw [Bool.eq_iff_iff, isLiveAt, Bool.and_eq_true, decide_eq_true_iff, decide_eq_true_iff,
    decide_eq_true_iff, UInt64.le_iff_toNat_le, UInt64.lt_iff_toNat_lt, fits]
  exact Iff.rfl

/-- Where a frame keeps the variable. -/
def localSlot (entry : Variable) : LocalSlot :=
  ⟨entry.slot, entry.signature⟩

end Wire.Variable

/-- The last entry of a table that has a name and is live at a code index. -/
def lastLive? (table : List Variable) (index : UInt64) (name : String) : Option Variable :=
  (table.filter fun entry => entry.name = name ∧ entry.Covers index).getLast?

theorem lastLive?_concat
    (table : List Variable) (entry : Variable) (index : UInt64) (name : String) :
    lastLive? (table ++ [entry]) index name =
      if entry.name = name ∧ entry.Covers index then some entry
      else lastLive? table index name := by
  rw [lastLive?, List.filter_append, List.filter_singleton]
  by_cases counts : entry.name = name ∧ entry.Covers index
  · simp [counts]
  · simp [counts, lastLive?]

theorem lastLive?_eq_none_iff
    {table : List Variable} {index : UInt64} {name : String} :
    lastLive? table index name = none ↔
      ∀ entry ∈ table, entry.name = name → ¬ entry.Covers index := by
  simp [lastLive?]

/-! ## The symbol table -/

namespace SymbolTable

theorem ofVariables_concat
    (table : List Variable) {entry : Variable} (bounded : entry.Bounded) (index : UInt64) :
    ofVariables (table ++ [entry]) index =
      if entry.Covers index then (ofVariables table index).insert entry.name entry.localSlot
      else ofVariables table index := by
  rw [ofVariables, List.filter_append, List.filter_singleton, entry.isLiveAt_eq bounded]
  by_cases live : entry.Covers index
  · simp [live, ofVariables, Table.ofList, Variable.localSlot]
  · simp [live, ofVariables]

/-- A name is found with the slot of the last live entry that has it. -/
theorem find?_ofVariables
    {table : List Variable} (bounded : ∀ entry ∈ table, entry.Bounded) (index : UInt64)
    (name : String) :
    (ofVariables table index).find? name = (lastLive? table index name).map (·.localSlot) := by
  induction table using List.reverseRecOn with
  | nil => rfl
  | append_singleton table entry ih =>
      have ih := ih fun other listed => bounded other (List.mem_append_left _ listed)
      rw [ofVariables_concat table (bounded entry (List.mem_concat_self ..)), lastLive?_concat]
      by_cases live : entry.Covers index
      · by_cases same : entry.name = name
        · subst same
          simp [live]
        · simp [live, same, Ne.symm same, ih]
      · simp [live, ih]

theorem mem_keys_ofVariables
    {table : List Variable} (bounded : ∀ entry ∈ table, entry.Bounded) {index : UInt64}
    {name : String} :
    name ∈ (ofVariables table index).keys ↔
      ∃ entry ∈ table, entry.name = name ∧ entry.Covers index := by
  rw [Table.mem_keys_iff, find?_ofVariables bounded, ne_eq, Option.map_eq_none_iff,
    lastLive?_eq_none_iff]
  push Not
  rfl

/-- There is one entry for each name of a live variable. -/
theorem size_ofVariables
    {table : List Variable} (bounded : ∀ entry ∈ table, entry.Bounded) (index : UInt64) :
    (ofVariables table index).size =
      ((table.filter (·.Covers index)).map (·.name)).toFinset.card := by
  have names : (ofVariables table index).keys.toFinset =
      ((table.filter (·.Covers index)).map (·.name)).toFinset := by
    ext name
    simp only [List.mem_toFinset, mem_keys_ofVariables bounded, List.mem_map, List.mem_filter,
      decide_eq_true_iff]
    constructor
    · rintro ⟨entry, listed, named, live⟩
      exact ⟨entry, ⟨listed, live⟩, named⟩
    · rintro ⟨entry, ⟨listed, live⟩, named⟩
      exact ⟨entry, listed, named, live⟩
  have distinct : (ofVariables table index).keys.Nodup := Table.distinct _
  rw [← names, List.toFinset_card_of_nodup distinct, Table.keys, List.length_map, Table.size]

end SymbolTable

/-! ## Instructions -/

namespace Evaluation

variable {setting : Setting} {name : String} {activation : Activation}

/-- An instruction that needs what a name stands for, with what it finds on the stack. -/
inductive Needs (name : String) (operands : List RemoteValue) : Instruction → Prop where
  | push : Needs name operands (.pushLocal name)
  | store (given : operands ≠ []) : Needs name operands (.storeLocal name)

theorem start_pushLocal_of_missing
    (unbound : activation.stack.local? name = none)
    (missing : setting.binding.symbols.find? name = none) :
    (step setting (.pushLocal name)).start activation =
      .done (.error (.failed (.noSuchVariable name)), activation) := by
  have started : (pushLocal setting name).start activation =
      (localVariable setting name >>= push).start activation := by
    rw [pushLocal, start_get_bind]
    simp only [unbound]
  have failed : (localVariable setting name).start activation = _ :=
    start_bind_of_error (start_slotOf_of_none missing)
  exact start_bind_of_error (started.trans (start_bind_of_error failed))

theorem start_storeLocal_of_missing
    {given : RemoteValue} {below : List RemoteValue}
    (loaded : activation.stack.operands = given :: below)
    (unbound : activation.stack.local? name = none)
    (missing : setting.binding.symbols.find? name = none) :
    (step setting (.storeLocal name)).start activation =
      .done (.error (.failed (.noSuchVariable name)), activation.holding below) := by
  rw [start_storeLocal_of_none loaded unbound]
  exact start_bind_of_error (start_bind_of_error (start_slotOf_of_none missing))

variable (setting) in
/-- A name that stands for nothing makes an instruction fail without a question. -/
theorem Needs.fails
    {instruction : Instruction} (needs : Needs name activation.stack.operands instruction)
    (unbound : activation.stack.local? name = none)
    (missing : setting.binding.symbols.find? name = none) :
    ∃ after, (step setting instruction).start activation =
      .done (.error (.failed (.noSuchVariable name)), after) := by
  cases needs with
  | push => exact ⟨_, start_pushLocal_of_missing unbound missing⟩
  | store given =>
      obtain ⟨top, below, loaded⟩ := List.exists_cons_of_ne_nil given
      exact ⟨_, start_storeLocal_of_missing loaded unbound missing⟩

/-- A turn whose instruction fails without a question asks at most for cancellation. -/
theorem ends_turn_of_failed
    {instruction : Instruction} {after : Activation} {error : EvalError}
    (failed : (step setting instruction).start activation = .done (.error (.failed error), after))
    (length counter : Nat) (watched : Bool) :
    ((turn setting length watched counter instruction).start activation).Ends
      (passedCheck watched) (.error (.failed error), after) := by
  refine ends_turn_iff.2 (.inr ⟨[], (List.append_nil _).symm, ?_⟩)
  rw [start_turn_unwatched, start_bind_of_error failed]
  exact .done

end Evaluation

/-! ## Runs -/

open Evaluation

namespace Context

variable {context : Context} {mode : RunMode} {program : Program} {record : Record}

/-- A run puts a question while it executes an instruction. -/
inductive PutsIn (context : Context) (mode : RunMode) (program : Program) (asked : Inquiry)
    (instruction : Instruction) : Record → Prop where
  | intro
      {moments : List Moment} {earlier current : Record} {counter : Nat} {activation : Activation}
      (journal : Journal ⟨context.binding, mode.searchLimit⟩ program mode.watched context.frameId
        moments earlier counter activation)
      (found : program[counter]? = some instruction)
      (asks : ((turn ⟨context.binding, mode.searchLimit⟩ program.length mode.watched counter
        instruction).start activation).Asks current asked) :
      PutsIn context mode program asked instruction (earlier ++ current)

/-- The frame is accessed by instructions that may do so, never by a description. -/
theorem putsIn_of_frameAccess
    {operation : Operation} {access : ThreadId × FrameId}
    (asks : (context.run mode program).Asks record (.operation operation))
    (accesses : operation.frameAccess? = some access) :
    ∃ id instruction, PutsIn context mode program (.operation operation) instruction record ∧
      MayPut context.binding id instruction operation := by
  obtain ⟨moments, earlier, current, counter, activation, instruction, rfl, journal, found, asks⟩ :=
    journal_of_asks asks
  refine ⟨activation.frameId, instruction, .intro journal found asks, ?_⟩
  obtain check | ⟨made, -, executes⟩ | ⟨exception, more, told, same, telling⟩ := asks_turn asks
  · cases check
  · obtain ⟨put, same, may⟩ := mayPut_of_asks executes
    cases same
    exact may
  · cases same
    cases telling.frameAccess?_eq_none.symm.trans accesses

end Context

/-- In the runs of a program the names of locals denote the live entries of a variable table. -/
structure DenotesLive (context : Context) (table : List Variable) (index : UInt64)
    (mode : RunMode) (program : Program) : Prop where
  /-- What is read is the slot of the last live entry that has the name. -/
  reads : ∀ {record thread id slots},
    (context.run mode program).Asks record (.operation (.frameValues thread id slots)) →
      ∃ name entry,
        context.PutsIn mode program (.operation (.frameValues thread id slots))
          (.pushLocal name) record ∧
        lastLive? table index name = some entry ∧ slots = [entry.localSlot]
  /-- What is written is the slot of the last live entry that has the name. -/
  writes : ∀ {record thread id slot value},
    (context.run mode program).Asks record (.operation (.setFrameValue thread id slot value)) →
      ∃ name entry,
        context.PutsIn mode program (.operation (.setFrameValue thread id slot value))
          (.storeLocal name) record ∧
        lastLive? table index name = some entry ∧ slot = entry.localSlot
  /-- Without a live entry, and as long as the program has not declared the name itself, an
  instruction that needs it asks for nothing.  It ends a run that has a step left. -/
  misses : ∀ {moments record counter activation name instruction},
    Journal ⟨context.binding, mode.searchLimit⟩ program mode.watched context.frameId
      moments record counter activation →
    program[counter]? = some instruction → Needs name activation.stack.operands instruction →
    (∀ moment ∈ moments, moment.instruction ≠ .declareLocal name) →
    (∀ entry ∈ table, entry.name = name → ¬ entry.Covers index) →
      ∃ after,
        (step ⟨context.binding, mode.searchLimit⟩ instruction).start activation =
          .done (.error (.failed (.noSuchVariable name)), after) ∧
        (moments.length < mode.stepLimit →
          (context.run mode program).Ends (record ++ passedCheck mode.watched)
            (.error (.failed (.noSuchVariable name)), { context with frameId := after.frameId }))
  /-- The symbol table has the names of the live entries, and each of them once. -/
  names : ∀ {name}, name ∈ context.binding.symbols.keys ↔
    ∃ entry ∈ table, entry.name = name ∧ entry.Covers index
  distinct : context.binding.symbols.keys.Nodup
  size : context.binding.symbols.size =
    ((table.filter (·.Covers index)).map (·.name)).toFinset.card

/-- A context with the variables of a table denotes those that are live. -/
theorem denotesLive_of_symbols
    {context : Context} {table : List Variable} {index : UInt64}
    (bounded : ∀ entry ∈ table, entry.Bounded)
    (symbols : context.binding.symbols = SymbolTable.ofVariables table index)
    (mode : RunMode) (program : Program) :
    DenotesLive context table index mode program := by
  have denoted : ∀ {name slot}, context.binding.symbols.find? name = some slot →
      ∃ entry, lastLive? table index name = some entry ∧ slot = entry.localSlot := by
    intro name slot found
    rw [symbols, SymbolTable.find?_ofVariables bounded] at found
    obtain ⟨entry, last, rfl⟩ := Option.map_eq_some_iff.1 found
    exact ⟨entry, last, rfl⟩
  refine
    { reads := ?reads
      writes := ?writes
      misses := ?misses
      names := by rw [symbols]; exact SymbolTable.mem_keys_ofVariables bounded
      distinct := context.binding.symbols.distinct
      size := by rw [symbols, SymbolTable.size_ofVariables bounded] }
  case reads =>
    intro record thread id slots asks
    obtain ⟨current, instruction, puts, may⟩ := Context.putsIn_of_frameAccess asks rfl
    cases may with
    | @frameValues name slot found =>
        obtain ⟨entry, last, rfl⟩ := denoted found
        exact ⟨name, entry, puts, last, rfl⟩
  case writes =>
    intro record thread id slot value asks
    obtain ⟨current, instruction, puts, may⟩ := Context.putsIn_of_frameAccess asks rfl
    cases may with
    | @setFrameValue name slot found =>
        obtain ⟨entry, last, rfl⟩ := denoted found
        exact ⟨name, entry, puts, last, rfl⟩
  case misses =>
    intro moments record counter activation name instruction journal found needs undeclared dead
    have missing : context.binding.symbols.find? name = none := by
      rw [symbols, SymbolTable.find?_ofVariables bounded, lastLive?_eq_none_iff.2 dead,
        Option.map_none]
    obtain ⟨after, failed⟩ :=
      needs.fails ⟨context.binding, mode.searchLimit⟩ (journal.unbound undeclared) missing
    refine ⟨after, failed, fun within => ?_⟩
    obtain ⟨rest, limit⟩ := Nat.exists_eq_add_of_lt within
    rw [Context.run, Context.ends_evaluate_iff]
    refine ⟨after, ?_, rfl⟩
    rw [limit, Nat.add_assoc]
    refine journal.ends_runFrom ?_
    rw [start_runFrom found, ends_bind_iff]
    exact ⟨_, _, [], (List.append_nil _).symm, ends_turn_of_failed failed .., .done⟩

/-- In a context that was bound to a frame, the name of a local denotes the last entry of the
variable table that has the name and is live where the frame stands, if every scope of the table
ends at a code index.  This holds for every run, whatever id the frame got in the runs before. -/
theorem names_denote_live_variables
    {thread : ThreadId} {depth : Nat} {context : Context}
    {bound : Dialogue.Record Session.Request.Answer}
    (binds : (Session.bind thread depth).Ends bound (.ok context)) :
    ∃ info table,
      Session.inquiries bound = [success (.frame thread depth) info,
        success (.variableTable info.location) table] ∧
      ((∀ entry ∈ table, entry.Bounded) →
        ∀ (id : FrameId) (mode : RunMode) (program : Program),
          DenotesLive { context with frameId := id } table info.location.index mode program) := by
  obtain ⟨info, table, inquired, rfl⟩ := Session.context_of_ends_bind binds
  exact ⟨info, table, inquired,
    fun bounded _ mode program => denotesLive_of_symbols bounded rfl mode program⟩

/-- A name in an inner scope, in the scope around it and in one that begins later. -/
def nestedTable : List Variable :=
  [⟨0, "n", "I", 100, 1⟩, ⟨4, "n", "J", 4, 2⟩, ⟨8, "n", "S", 92, 2⟩, ⟨0, "gone", "I", 7, 3⟩]

/-- The binding of a frame that stands at the last index of the inner scope. -/
def nestedBound : Dialogue.Record Session.Request.Answer :=
  [⟨.acquire 1, ()⟩,
    ⟨.inquiry (.operation (.frame 1 0)), .ok ⟨9, ⟨1, 2, 3, 7⟩⟩⟩,
    ⟨.inquiry (.operation (.variableTable ⟨1, 2, 3, 7⟩)), .ok nestedTable⟩]

theorem nested_names_denote_live_variables :
    (∀ entry ∈ nestedTable, entry.Bounded) ∧
      lastLive? nestedTable 7 "n" = some ⟨4, "n", "J", 4, 2⟩ ∧
      lastLive? nestedTable 7 "gone" = none ∧
      DenotesLive ⟨⟨1, 0, ⟨1, 2, 3, 7⟩, SymbolTable.ofVariables nestedTable 7⟩, 9⟩ nestedTable 7
        ⟨false, 5, 0⟩ [.pushLocal "n", .pushLocal "gone"] := by
  have binds : (Session.bind 1 0).Ends nestedBound
      (.ok ⟨⟨1, 0, ⟨1, 2, 3, 7⟩, SymbolTable.ofVariables nestedTable 7⟩, 9⟩) :=
    .ask (.ask (.ask .done))
  obtain ⟨info, table, inquired, denotes⟩ := names_denote_live_variables binds
  cases inquired
  have bounded : ∀ entry ∈ nestedTable, entry.Bounded := by decide
  exact ⟨bounded, by decide, by decide, denotes bounded 9 _ _⟩

end FrameEval
