import FrameEval.Proofs.Evaluation.Journal

/-!
# What a run changes

An instruction puts one operation at most that may change the target.  A run puts one more only
when it ends with a thrown exception: the call that asks it for its detail message.  So the record
of a run falls into parts, one for each instruction that was executed, and in each of them the
target was changed once at most.
-/

namespace FrameEval

open Wire Dialogue Evaluation

/-! ## Mutating operations -/

/-- The operation of a question that may change the target. -/
def Inquiry.mutation? : Inquiry → Option Operation
  | operation asked => if asked.isMutating then some asked else none
  | cancelled => none

namespace Evaluation

/-- The operations of a record that may have changed the target. -/
def mutations (record : Record) : List Operation :=
  record.filterMap fun exchange => exchange.1.mutation?

section Mutations

variable {setting : Setting} {length counter next : Nat} {watched : Bool}
  {instruction : Instruction} {activation after : Activation} {record : Record}

theorem mutations_nil : mutations [] = [] := rfl

theorem mutations_append
    (record more : Record) : mutations (record ++ more) = mutations record ++ mutations more :=
  List.filterMap_append

theorem mutations_passedCheck (watched : Bool) : mutations (passedCheck watched) = [] := by
  cases watched <;> rfl

theorem mutations_of_reading (reading : Reading record) : mutations record = [] := by
  refine List.filterMap_eq_nil_iff.2 fun exchange member => ?_
  obtain ⟨operation, asked, reads⟩ := reading exchange member
  rw [asked, Inquiry.mutation?, reads]
  rfl

theorem Orderly.length_mutations_le
    {binding : Binding} {runs : Prop} {operation : Operation}
    (orderly : Orderly binding runs record operation) (answer : Except Halt operation.Answer) :
    (mutations (record ++ [⟨.operation operation, answer⟩])).length ≤ 1 := by
  cases orderly with
  | next reading measured permitted =>
      rw [mutations_append, mutations_of_reading reading]
      exact List.length_filterMap_le _ [_]
  | @refetch before change outcome reading changes permitted =>
      rw [mutations_append, mutations_append, mutations_of_reading reading]
      have still : mutations [⟨.operation (.frame binding.thread binding.depth), answer⟩] = [] :=
        rfl
      rw [still, List.append_nil]
      exact List.length_filterMap_le _ [_]

/-- An instruction changes its target once at most. -/
theorem length_mutations_le_of_step
    {ended : Except Halt Flow × Activation}
    (ends : ((step setting instruction).start activation).Ends record ended) :
    (mutations record).length ≤ 1 := by
  rcases List.eq_nil_or_concat record with rfl | ⟨earlier, ⟨asked, answer⟩, rfl⟩
  · exact Nat.zero_le 1
  · rw [List.concat_eq_append] at ends ⊢
    obtain ⟨operation, rfl, orderly⟩ := orderly_of_asks ends.asks_last
    exact orderly.length_mutations_le answer

/-- The check before an instruction changes nothing. -/
theorem length_mutations_le_of_passed
    (watched : Bool) {ended : Except Halt Flow × Activation}
    (ends : ((step setting instruction).start activation).Ends record ended) :
    (mutations (passedCheck watched ++ record)).length ≤ 1 := by
  rw [mutations_append, mutations_passedCheck, List.nil_append]
  exact length_mutations_le_of_step ends

/-- The only change of the target is the call by which an exception is asked for its detail
message. -/
def CallsForMessage (thread : ThreadId) (exception : ObjectHandle) (record : Record) : Prop :=
  ∃ method, success (.instanceMethod (.object exception) messageSelector) method ∈ record ∧
    mutations record = [.invoke thread (some (.object exception)) method []]

theorem Muted.mutations_cases
    {exception : ObjectHandle} {halt : Halt} (muted : Muted setting exception record halt) :
    mutations record = [] ∨ CallsForMessage setting.binding.thread exception record := by
  cases muted with
  | refused wording =>
      cases wording with
      | lookUp => exact .inl rfl
      | @call method => exact .inr ⟨method, by simp, rfl⟩
      | @refetch method => exact .inr ⟨method, by simp, rfl⟩
  | unsplit | arity => exact .inl rfl
  | @stale method => exact .inr ⟨method, by simp, rfl⟩

/-- The name of the class is read before the detail message. -/
theorem CallsForMessage.cons
    {thread : ThreadId} {exception : ObjectHandle}
    (calls : CallsForMessage thread exception record) (signature : String) :
    CallsForMessage thread exception
      (success (.typeSignature (.object exception)) signature :: record) := by
  obtain ⟨method, found, called⟩ := calls
  exact ⟨method, List.mem_cons_of_mem _ found, called⟩

theorem Told.mutations_cases
    {exception : ObjectHandle} {halt : Halt} (told : Told setting exception record halt) :
    mutations record = [] ∨ CallsForMessage setting.binding.thread exception record := by
  cases told with
  | unnamed => exact .inl rfl
  | passed muted final => exact muted.mutations_cases.imp_right fun calls => calls.cons _
  | muted muted passing => exact muted.mutations_cases.imp_right fun calls => calls.cons _
  | @silent signature method => exact .inr ⟨method, by simp [answered], rfl⟩
  | @unread signature method => exact .inr ⟨method, by simp [answered], rfl⟩
  | @said signature method => exact .inr ⟨method, by simp [answered], rfl⟩

/-- What comes after the instructions of a run: it may end with the description of an exception. -/
inductive Aftermath (setting : Setting) : Except Halt RemoteValue → Record → Prop where
  | none {result : Except Halt RemoteValue} : Aftermath setting result []
  | told
      {exception : ObjectHandle} {halt : Halt} {told : Record}
      (tells : Told setting exception told halt)
      (calls : mutations told = [] ∨ CallsForMessage setting.binding.thread exception told) :
      Aftermath setting (.error halt) told

theorem Aftermath.length_mutations_le
    {result : Except Halt RemoteValue} {told : Record} (aftermath : Aftermath setting result told) :
    (mutations told).length ≤ 1 := by
  cases aftermath with
  | none => exact Nat.zero_le 1
  | told tells calls =>
      rcases calls with still | ⟨method, -, called⟩
      · rw [still]
        exact Nat.zero_le 1
      · rw [called]
        exact Nat.le_refl 1

theorem eq_nil_of_ends_ofExcept
    {α : Type} {given : Except EvalError α} {ended : Except Halt α × Activation}
    (ends : ((ofExcept given).start activation).Ends record ended) : record = [] := by
  cases given <;>
    · cases ends
      rfl

/-- The record of a turn that ends a run has a part for the instruction, and one for the
exception that it has thrown. -/
theorem exists_aftermath_of_turn
    {halt : Halt}
    (ends : ((turn setting length watched counter instruction).start activation).Ends record
      (.error halt, after)) :
    ∃ executed told, record = executed ++ told ∧ (mutations executed).length ≤ 1 ∧
      Aftermath setting (.error halt) told := by
  obtain ⟨-, rfl, -⟩ | ⟨passed, rfl, unwatched⟩ := ends_turn_iff.1 ends
  · exact ⟨_, [], (List.append_nil _).symm, Nat.zero_le 1, .none⟩
  rw [start_turn_unwatched, ends_start_bind_iff] at unwatched
  obtain ⟨other, between, stops, same⟩ | ⟨made, flow, between, rest, rfl, steps, raises⟩ :=
    unwatched
  · cases same
    exact ⟨_, [], (List.append_nil _).symm, length_mutations_le_of_passed watched stops, .none⟩
  have single := length_mutations_le_of_passed watched steps
  rw [ends_start_bind_iff] at raises
  obtain ⟨other, final, tells, same⟩ | ⟨more, _, final, last, rfl, raised, strays⟩ := raises
  · cases same
    obtain ⟨exception, told⟩ := ends_raiseThrown tells
    exact ⟨_, rest, (List.append_assoc ..).symm, single, .told told told.mutations_cases⟩
  · obtain ⟨rfl, -, -⟩ := of_ends_raiseThrown raised
    obtain rfl := eq_nil_of_ends_ofExcept strays
    exact ⟨_, [], by simp, single, .none⟩

end Mutations

/-! ## Turns -/

/-- The exchanges of a turn that was completed. -/
def Moment.Takes (setting : Setting) (length : Nat) (watched : Bool) (moment : Moment)
    (part : Record) : Prop :=
  ∃ next after,
    ((turn setting length watched moment.counter moment.instruction).start moment.before).Ends
      part (.ok next, after)

section Journals

variable {setting : Setting} {program : Program} {watched : Bool} {id : FrameId}
  {moments : List Moment} {parts : List Record} {record : Record} {counter : Nat}
  {activation : Activation}

/-- A run that is past its instructions asks nothing more. -/
theorem Closes.eq_nil_or_lt
    {left : Nat} {last : Record} {result : Except Halt RemoteValue}
    (closes : Closes setting program watched counter activation left last result) :
    last = [] ∨ counter < program.length := by
  cases closes with
  | finished beyond => exact .inl rfl
  | limited within spent => exact .inl rfl
  | broken found ends => exact .inr (List.getElem?_eq_some_iff.1 found).1

/-- The record of a journal is made up of those of its turns. -/
theorem Journal.exists_parts
    (journal : Journal setting program watched id moments record counter activation) :
    ∃ parts : List Record, record = parts.flatten ∧
      List.Forall₂ (Moment.Takes setting program.length watched) moments parts := by
  induction journal with
  | start => exact ⟨[], rfl, .nil⟩
  | @turn _ _ more _ next _ after _ _ found ends ih =>
      obtain ⟨parts, rfl, taken⟩ := ih
      refine ⟨parts ++ [more], by simp, ?_⟩
      exact List.rel_append taken (.cons ⟨next, after, ends⟩ .nil)

theorem Moment.Takes.length_mutations_le
    {length : Nat} {moment : Moment} {part : Record}
    (takes : moment.Takes setting length watched part) : (mutations part).length ≤ 1 := by
  obtain ⟨next, after, ends⟩ := takes
  obtain ⟨made, flow, completed⟩ := completed_of_turn ends
  rw [completed.record_eq]
  exact length_mutations_le_of_passed watched completed.ends

theorem length_mutations_flatten_le
    {length : Nat}
    (taken : List.Forall₂ (Moment.Takes setting length watched) moments parts) :
    (mutations parts.flatten).length ≤ moments.length := by
  induction taken with
  | nil => exact Nat.zero_le 0
  | cons takes _ ih =>
      rw [List.flatten_cons, mutations_append, List.length_append, List.length_cons]
      have single := takes.length_mutations_le
      omega

end Journals

end Evaluation

/-! ## Runs -/

/-- The record of a run has a part for each instruction that was executed, and one for the
description of an exception.  In each part the target was changed once at most. -/
structure Sparing (context : Context) (mode : RunMode) (program : Program) (record : Record)
    (result : Except Halt RemoteValue) (moments : List Moment) (parts : List Record)
    (last told : Record) : Prop where
  record_eq : record = parts.flatten ++ (last ++ told)
  /-- After the turns that were completed comes at most the one in which the run was broken off. -/
  closes : ∃ counter activation left,
    Journal ⟨context.binding, mode.searchLimit⟩ program mode.watched context.frameId
      moments parts.flatten counter activation ∧
    Closes ⟨context.binding, mode.searchLimit⟩ program mode.watched counter activation left
      (last ++ told) result
  taken : List.Forall₂
    (fun moment part =>
      moment.Takes ⟨context.binding, mode.searchLimit⟩ program.length mode.watched part ∧
        (mutations part).length ≤ 1)
    moments parts
  single : (mutations last).length ≤ 1
  aftermath : Aftermath ⟨context.binding, mode.searchLimit⟩ result told

theorem exists_sparing_of_ends
    {context after : Context} {mode : RunMode} {program : Program} {record : Record}
    {result : Except Halt RemoteValue}
    (ends : (context.run mode program).Ends record (result, after)) :
    ∃ moments parts last told,
      Sparing context mode program record result moments parts last told := by
  obtain ⟨moments, earlier, last, counter, activation, left, rfl, -, journal, closes⟩ :=
    Context.closes_of_ends ends
  obtain ⟨parts, rfl, taken⟩ := journal.exists_parts
  have singles : List.Forall₂ (fun moment part =>
      moment.Takes ⟨context.binding, mode.searchLimit⟩ program.length mode.watched part ∧
        (mutations part).length ≤ 1) moments parts :=
    taken.imp fun moment part takes => ⟨takes, takes.length_mutations_le⟩
  have closed := closes
  cases closes with
  | finished beyond =>
      exact ⟨moments, parts, [], [], rfl, ⟨counter, activation, left, journal, closed⟩, singles,
        Nat.zero_le 1, .none⟩
  | limited within spent =>
      exact ⟨moments, parts, [], [], rfl, ⟨counter, activation, left, journal, closed⟩, singles,
        Nat.zero_le 1, .none⟩
  | broken found breaks =>
      obtain ⟨executed, told, rfl, single, aftermath⟩ := exists_aftermath_of_turn breaks
      exact ⟨moments, parts, executed, told, rfl, ⟨counter, activation, left, journal, closed⟩,
        singles, single, aftermath⟩

end FrameEval
