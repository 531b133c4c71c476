import FrameEval.Proofs.Evaluation.Turn
import FrameEval.Proofs.World.Keeping
import Mathlib.Algebra.Group.Int.Defs

/-!
# Array indices

The two instructions that touch an element find the faults of their operands in a fixed order.  A
fault leaves the elements alone, and without a fault an element is touched.  An index is compared
with the length within the instruction, and between the answer and the element the target is only
read; so a target in memory never sees an index that is not one of an element.
-/

namespace FrameEval

open Dialogue Evaluation Wire

/-! ## Operands -/

/-- The kinds of the values that serve as an index. -/
def PrimitiveKind.indexKinds : List PrimitiveKind :=
  [.byte, .char, .short, .int]

/-- An operand stands for an index, as the integer that it is. -/
def RemoteValue.Indexes (operand : RemoteValue) (index : Int32) : Prop :=
  ∃ given, operand = .primitive given ∧ given.kind ∈ PrimitiveKind.indexKinds ∧
    given.toInt? = some index.toInt

theorem ofInt_eq_iff
    (value : Int) (least : -2 ^ 31 ≤ value) (most : value < 2 ^ 31) (index : Int32) :
    Int32.ofInt value = index ↔ value = index.toInt := by
  constructor
  · rintro rfl
    exact (Int32.toInt_ofInt_of_le least most).symm
  · rintro rfl
    exact Int32.ofInt_toInt index

/-- The narrow kinds all lie within the range of `int`. -/
theorem Primitive.toIntOperand?_eq_some_iff
    {given : Primitive} {index : Int32} :
    given.toIntOperand? = some index ↔
      given.kind ∈ PrimitiveKind.indexKinds ∧ given.toInt? = some index.toInt := by
  cases given with
  | byte value =>
      have least := value.le_toInt
      have most := value.toInt_lt
      have promoted := ofInt_eq_iff value.toInt (by omega) (by omega) index
      simpa [toIntOperand?, toInt?, kind, PrimitiveKind.indexKinds] using promoted
  | char value =>
      have most := value.toNat_lt
      have promoted := ofInt_eq_iff value.toNat (by omega) (by omega) index
      simpa [toIntOperand?, toInt?, kind, PrimitiveKind.indexKinds] using promoted
  | short value =>
      have least := value.le_toInt
      have most := value.toInt_lt
      have promoted := ofInt_eq_iff value.toInt (by omega) (by omega) index
      simpa [toIntOperand?, toInt?, kind, PrimitiveKind.indexKinds] using promoted
  | int value => simp [toIntOperand?, toInt?, kind, PrimitiveKind.indexKinds, Int32.toInt_inj]
  | boolean | long | float | double => simp [toIntOperand?, kind, PrimitiveKind.indexKinds]

section Operands

variable (activation : Activation) (operands : List RemoteValue) {operand : RemoteValue}

theorem start_popArray (handle : ArrayHandle) :
    popArray.start (activation.over (.array handle :: operands)) =
      .done (.ok handle, activation.over operands) := rfl

theorem start_popArray_null :
    popArray.start (activation.over (.null :: operands)) =
      .done (.error (.failed .nullArrayReference), activation.over operands) := rfl

theorem start_popArray_of_other
    (present : operand.isNull = false) (other : ∀ handle, operand ≠ .array handle) :
    popArray.start (activation.over (operand :: operands)) =
      .done (.error (.failed (.notAnArray operand.typeName)), activation.over operands) := by
  cases operand with
  | array handle => exact (other handle rfl).elim
  | null => cases present
  | object | primitive | void => rfl

theorem start_popInt_of_indexes
    (role : String) {index : Int32} (indexes : operand.Indexes index) :
    (popInt role).start (activation.over (operand :: operands)) =
      .done (.ok index, activation.over operands) := by
  obtain ⟨given, rfl, known⟩ := indexes
  rw [popInt, start_bind_of_done (start_pop ..)]
  dsimp only
  rw [Primitive.toIntOperand?_eq_some_iff.2 known]
  rfl

theorem start_popInt_of_other
    (role : String) (other : ∀ index, ¬ operand.Indexes index) :
    (popInt role).start (activation.over (operand :: operands)) =
      .done (.error (.failed (.typeMismatch s!"{role} must be an int, got {operand.typeName}")),
        activation.over operands) := by
  rw [popInt, start_bind_of_done (start_pop ..)]
  cases operand with
  | primitive given =>
      dsimp only
      cases promoted : given.toIntOperand? with
      | some index =>
          exact (other index ⟨given, rfl, Primitive.toIntOperand?_eq_some_iff.1 promoted⟩).elim
      | none => rfl
  | object | array | null | void => rfl

end Operands

/-! ## The comparison with the length -/

section Bounds

variable (array : ArrayHandle) {index length : Int32}

theorem ends_checkBounds_of_outside
    (activation : Activation) (outside : ¬ (0 ≤ index.toInt ∧ index.toInt < length.toInt)) :
    ((checkBounds array index).start activation).Ends [success (.arrayLength array) length]
      (.error (.failed (.indexOutOfRange index length)), activation) := by
  refine ends_start_bind_iff.2 (.inr ⟨_, length, activation, [], rfl, ends_perform .., ?_⟩)
  rw [if_pos (outOfBounds_iff.2 outside)]
  exact .done

theorem ends_checkBounds_of_inside
    (activation : Activation) (inside : 0 ≤ index.toInt ∧ index.toInt < length.toInt) :
    ((checkBounds array index).start activation).Ends [success (.arrayLength array) length]
      (.ok (), activation) := by
  refine ends_start_bind_iff.2 (.inr ⟨_, length, activation, [], rfl, ends_perform .., ?_⟩)
  rw [if_neg (mt outOfBounds_iff.1 (not_not_intro inside))]
  exact .done

end Bounds

/-! ## Faults -/

/-- A value that does not fit the type declared for it, with the exchanges that tell so. -/
inductive Unfit (setting : Setting) (activation : Activation) :
    RemoteValue → String → Record → Prop where
  | narrower
      {given : Primitive} {declared : String} {kind : PrimitiveKind}
      (declares : PrimitiveKind.ofSignature? declared = some kind)
      (narrows : given.kind.widensTo kind = false) :
      Unfit setting activation (.primitive given) declared []
  | notPrimitive
      {value : RemoteValue} {declared : String} {kind : PrimitiveKind}
      (declares : PrimitiveKind.ofSignature? declared = some kind)
      (other : ∀ given, value ≠ .primitive given) :
      Unfit setting activation value declared []
  | notReference
      {value : RemoteValue} {declared : String}
      (declares : PrimitiveKind.ofSignature? declared = none)
      (other : value.isReference = false) :
      Unfit setting activation value declared []
  /-- A search of the supertypes does not reach the declared type. -/
  | otherType
      {value : RemoteValue} {declared runtime : String} {search : Record} {after : Activation}
      (declares : PrimitiveKind.ofSignature? declared = none)
      (handle : value.isHandle = true)
      (searched : ((isAssignable setting.searchLimit runtime declared).start activation).Ends
        search (.ok false, after)) :
      Unfit setting activation value declared (success (.typeSignature value) runtime :: search)

/-- What is wrong with an array and an index before the target is asked, and how it is reported.
A fault of the array comes before one of the index. -/
inductive OperandFault : RemoteValue → RemoteValue → EvalError → Prop where
  | nullArray
      {index : RemoteValue} : OperandFault .null index .nullArrayReference
  | otherArray
      {array index : RemoteValue} (present : array.isNull = false)
      (other : ∀ handle, array ≠ .array handle) :
      OperandFault array index (.notAnArray array.typeName)
  | otherIndex
      {array : ArrayHandle} {index : RemoteValue} (other : ∀ position, ¬ index.Indexes position) :
      OperandFault (.array array) index
        (.typeMismatch s!"array index must be an int, got {index.typeName}")

/-- What is wrong with an array, an index and the value to be stored, if there is one; with the
exchanges after which it is found.  Each fault presupposes that there is none before it. -/
inductive Fault (setting : Setting) (activation : Activation) :
    RemoteValue → RemoteValue → Option RemoteValue → Record → EvalError → Prop where
  | operand
      {array index : RemoteValue} {value : Option RemoteValue} {error : EvalError}
      (fault : OperandFault array index error) :
      Fault setting activation array index value [] error
  | outOfRange
      {array : ArrayHandle} {index : RemoteValue} {value : Option RemoteValue}
      {position length : Int32} (indexes : index.Indexes position)
      (outside : ¬ (0 ≤ position.toInt ∧ position.toInt < length.toInt)) :
      Fault setting activation (.array array) index value [success (.arrayLength array) length]
        (.indexOutOfRange position length)
  | unfit
      {array : ArrayHandle} {index value : RemoteValue} {position length : Int32}
      {search : Record} (indexes : index.Indexes position)
      (inside : 0 ≤ position.toInt ∧ position.toInt < length.toInt)
      (unfit : Unfit setting activation value array.element.signature search) :
      Fault setting activation (.array array) index (some value)
        (success (.arrayLength array) length :: search)
        (notAssignable value array.element.signature)

section Faults

variable {setting : Setting} {activation : Activation} {array index value : RemoteValue}
  {declared : String} {record : Record} {error : EvalError}

theorem Unfit.fails
    (unfit : Unfit setting activation value declared record) :
    ∃ after, ((assign setting value declared).start activation).Ends record
      (.error (.failed (notAssignable value declared)), after) := by
  unfold assign
  cases unfit with
  | narrower declares narrows =>
      rw [declares]
      dsimp only
      rw [narrows]
      exact ⟨_, .done⟩
  | notPrimitive declares other =>
      rw [declares]
      cases value with
      | primitive given => exact (other given rfl).elim
      | object | array | null | void => exact ⟨_, .done⟩
  | notReference declares other =>
      rw [declares]
      cases value with
      | primitive | void => exact ⟨_, .done⟩
      | object | array | null => cases other
  | @otherType _ _ runtime search after declares handle searched =>
      rw [declares]
      have tested : ((instanceOf setting value declared).start activation).Ends
          (success (.typeSignature value) runtime :: search) (.ok false, after) :=
        ends_start_bind_iff.2
          (.inr ⟨_, runtime, activation, search, rfl, ends_perform .., searched⟩)
      refine ⟨after, ?_⟩
      cases value with
      | object | array =>
          exact ends_start_bind_iff.2
            (.inr ⟨_, false, after, [], (List.append_nil _).symm, tested, .done⟩)
      | primitive | null | void => cases handle

/-- Both instructions begin with an array and an index. -/
theorem operands_fail
    (rest : ArrayHandle → Int32 → Evaluation Unit) (operands : List RemoteValue)
    (fault : OperandFault array index error) :
    ∃ after,
      (do
        let array ← popArray
        let index ← popInt "array index"
        rest array index : Evaluation Unit).start (activation.over (array :: index :: operands)) =
      .done (.error (.failed error), after) := by
  cases fault with
  | nullArray =>
      rw [start_bind_of_error (start_popArray_null ..)]
      exact ⟨_, rfl⟩
  | otherArray present other =>
      rw [start_bind_of_error (start_popArray_of_other _ _ present other)]
      exact ⟨_, rfl⟩
  | otherIndex other =>
      rw [start_bind_of_done (start_popArray ..),
        start_bind_of_error (start_popInt_of_other _ _ _ other)]
      exact ⟨_, rfl⟩

theorem start_arrayLoad
    {array : ArrayHandle} {position : Int32} (indexes : index.Indexes position) :
    arrayLoad.start (activation.over [.array array, index]) =
      (do
        checkBounds array position
        push (← perform (.arrayGet array position)) : Evaluation Unit).start activation := by
  rw [arrayLoad, start_bind_of_done (start_popArray ..),
    start_bind_of_done (start_popInt_of_indexes _ _ _ indexes)]
  rfl

theorem start_arrayStore
    {array : ArrayHandle} {position : Int32} (indexes : index.Indexes position) :
    (arrayStore setting).start (activation.over [.array array, index, value]) =
      (do
        checkBounds array position
        let stored ← assign setting value array.element.signature
        perform (.arraySet array position stored) : Evaluation Unit).start activation := by
  rw [arrayStore, start_bind_of_done (start_popArray ..),
    start_bind_of_done (start_popInt_of_indexes _ _ _ indexes), start_bind_of_done (start_pop ..)]
  rfl

theorem arrayLoad_fails
    (fault : Fault setting activation array index none record error) :
    ∃ after, (arrayLoad.start (activation.over [array, index])).Ends record
      (.error (.failed error), after) := by
  cases fault with
  | operand fault =>
      obtain ⟨after, failed⟩ := operands_fail _ [] fault
      unfold arrayLoad
      rw [failed]
      exact ⟨after, .done⟩
  | outOfRange indexes outside =>
      rw [start_arrayLoad indexes]
      exact ⟨_, ends_start_bind_iff.2 (.inl ⟨_, _, ends_checkBounds_of_outside _ _ outside, rfl⟩)⟩

theorem arrayStore_fails
    (fault : Fault setting activation array index (some value) record error) :
    ∃ after, ((arrayStore setting).start (activation.over [array, index, value])).Ends record
      (.error (.failed error), after) := by
  cases fault with
  | operand fault =>
      obtain ⟨after, failed⟩ := operands_fail _ [value] fault
      unfold arrayStore
      rw [failed]
      exact ⟨after, .done⟩
  | outOfRange indexes outside =>
      rw [start_arrayStore indexes]
      exact ⟨_, ends_start_bind_iff.2 (.inl ⟨_, _, ends_checkBounds_of_outside _ _ outside, rfl⟩)⟩
  | @unfit array _ _ _ _ search indexes inside unfit =>
      rw [start_arrayStore indexes]
      obtain ⟨after, refused⟩ := unfit.fails
      refine ⟨after, ends_start_bind_iff.2 (.inr ⟨_, (), activation, search, rfl,
        ends_checkBounds_of_inside array activation inside, ?_⟩)⟩
      exact ends_start_bind_iff.2 (.inl ⟨_, _, refused, rfl⟩)

/-- The instruction that stores a value or, without one, loads an element. -/
def access : Option RemoteValue → Instruction
  | some _ => .arrayStore
  | none => .arrayLoad

theorem access_fails
    {value : Option RemoteValue} (fault : Fault setting activation array index value record error) :
    ∃ after, ((step setting (access value)).start
      (activation.over (array :: index :: value.toList))).Ends record
        (.error (.failed error), after) := by
  cases value with
  | none =>
      obtain ⟨after, ends⟩ := arrayLoad_fails fault
      exact ⟨after, ends_start_bind_iff.2 (.inl ⟨_, _, ends, rfl⟩)⟩
  | some value =>
      obtain ⟨after, ends⟩ := arrayStore_fails fault
      exact ⟨after, ends_start_bind_iff.2 (.inl ⟨_, _, ends, rfl⟩)⟩

/-- What is asked next when there is no fault: an element is read, or the value is stored as the
type of the elements has it. -/
inductive Faultless (setting : Setting) (activation : Activation) :
    RemoteValue → RemoteValue → Option RemoteValue → Record → Operation → Prop where
  | load
      {array : ArrayHandle} {index : RemoteValue} {position length : Int32}
      (indexes : index.Indexes position)
      (inside : 0 ≤ position.toInt ∧ position.toInt < length.toInt) :
      Faultless setting activation (.array array) index none [success (.arrayLength array) length]
        (.arrayGet array position)
  | store
      {array : ArrayHandle} {index value stored : RemoteValue} {position length : Int32}
      {search : Record} {after : Activation} (indexes : index.Indexes position)
      (inside : 0 ≤ position.toInt ∧ position.toInt < length.toInt)
      (fits : ((assign setting value array.element.signature).start activation).Ends search
        (.ok stored, after)) :
      Faultless setting activation (.array array) index (some value)
        (success (.arrayLength array) length :: search) (.arraySet array position stored)

theorem access_touches
    {value : Option RemoteValue} {operation : Operation}
    (faultless : Faultless setting activation array index value record operation) :
    ((step setting (access value)).start
      (activation.over (array :: index :: value.toList))).Asks record (.operation operation) := by
  cases faultless with
  | @load array _ position _ indexes inside =>
      refine asks_start_bind_iff.2 (.inl ?_)
      rw [Option.toList_none, start_arrayLoad indexes]
      exact asks_start_bind_iff.2 (.inr ⟨_, (), activation, [], rfl,
        ends_checkBounds_of_inside array activation inside, .here⟩)
  | @store array _ _ _ position _ search after indexes inside fits =>
      refine asks_start_bind_iff.2 (.inl ?_)
      rw [Option.toList_some, start_arrayStore indexes]
      refine asks_start_bind_iff.2 (.inr ⟨_, (), activation, search, rfl,
        ends_checkBounds_of_inside array activation inside, ?_⟩)
      exact asks_start_bind_iff.2
        (.inr ⟨search, _, after, [], (List.append_nil _).symm, fits, .here⟩)

end Faults

/-! ## Operations on elements -/

/-- No question of a record touches an element. -/
abbrev Untouched : Record → Prop :=
  Only fun operation => operation.element? = none

section Elements

variable {setting : Setting} {activation : Activation} {record : Record}

theorem untouched_operation
    {operation : Operation} (apart : operation.element? = none)
    (answer : Except Halt operation.Answer) :
    Untouched [⟨.operation operation, answer⟩] :=
  only_singleton apart answer

/-- A search of the supertypes asks for supertypes only. -/
theorem untouched_isAssignable
    {limit : Nat} {source target : String} {found : Bool} {after : Activation}
    (ends : ((isAssignable limit source target).start activation).Ends record (.ok found, after)) :
    Untouched record := by
  have walk : Triple ⟨fun _ _ => True, fun _ _ => True⟩ (fun record _ => Untouched record)
      (isAssignable limit source target) fun record _ _ => Untouched record := by
    refine Triple.isAssignable (fun type => .perform ?_) (fun _ _ _ => trivial) limit source target
    intro record activation untouched
    refine { asks := trivial, returns := fun parents => ?_, stops := fun _ => trivial }
    exact untouched.append (untouched_operation rfl _)
  exact ((meets_iff _ _).1 (walk [] activation (only_nil _))).2 record _ ends

theorem Unfit.untouched
    {value : RemoteValue} {declared : String}
    (unfit : Unfit setting activation value declared record) : Untouched record := by
  cases unfit with
  | narrower | notPrimitive | notReference => exact only_nil _
  | otherType declares handle searched =>
      exact (untouched_operation rfl _).append (untouched_isAssignable searched)

theorem Fault.untouched
    {array index : RemoteValue} {value : Option RemoteValue} {error : EvalError}
    (fault : Fault setting activation array index value record error) : Untouched record := by
  cases fault with
  | operand => exact only_nil _
  | outOfRange => exact untouched_operation rfl _
  | unfit indexes inside unfit => exact (untouched_operation rfl _).append unfit.untouched

end Elements

/-! ## Runs -/

theorem EvalError.not_isOwn_invalidIndex : ¬ Heap.invalidIndex.IsOwn := by
  rintro ⟨name, same⟩
  have begins : (s!"no value returned for local {name}").toList.head? = some 'n' :=
    head?_append _ rfl
  rw [← same] at begins
  cases begins

namespace Evaluation

variable {setting : Setting} {exception : ObjectHandle} {record : Record} {halt : Halt}
  {world after : World}

theorem Telling.element?_eq_none
    {operation : Operation} (telling : Telling setting exception record operation) :
    operation.element? = none := by
  cases telling with
  | name => rfl
  | text => rfl
  | wording wording => cases wording <;> rfl

theorem Stopped.ne_invalidIndex
    {binding : Binding} {runs : Prop} (stopped : Stopped binding runs record halt)
    (answered : Answered World.handle world record after) :
    halt ≠ .failed Heap.invalidIndex := by
  rintro rfl
  cases stopped with
  | own reading own => exact EvalError.not_isOwn_invalidIndex own
  | refused orderly =>
      obtain ⟨between, first, strays⟩ := World.exists_strays_of_answered _ answered
      exact World.not_strays_of_orderly first orderly strays

theorem Told.ne_invalidIndex
    (told : Told setting exception record halt)
    (answered : Answered World.handle world record after) :
    halt ≠ .failed Heap.invalidIndex := by
  rintro rfl
  cases told with
  | unnamed =>
      obtain ⟨between, -, strays⟩ := World.exists_strays_of_answered [] answered
      exact World.not_strays_of_apart rfl strays
  | passed muted final => cases final
  | unread =>
      obtain ⟨between, -, strays⟩ := World.exists_strays_of_answered _ answered
      exact World.not_strays_of_apart rfl strays

/-- Whatever ends a run against a world, it is not an invalid index. -/
theorem Broken.ne_invalidIndex
    {watched : Bool} {instruction : Instruction} {activation : Activation}
    (broken : Broken setting watched instruction activation record halt)
    (answered : Answered World.handle world record after) :
    halt ≠ .failed Heap.invalidIndex := by
  cases broken with
  | cancelled => nofun
  | astray => nofun
  | stopped ends =>
      obtain ⟨between, -, made⟩ := answered_append_iff.1 answered
      exact (stopped_of_ends ends).ne_invalidIndex made
  | thrown told =>
      obtain ⟨between, -, rest⟩ := answered_append_iff.1 answered
      obtain ⟨last, -, more⟩ := answered_append_iff.1 rest
      exact told.ne_invalidIndex more

end Evaluation

namespace Context

variable (context : Context) (mode : RunMode) (program : Program)

/-- An element that a run touches was compared with the length in the same turn. -/
theorem element_in_turn
    {record : Record} {operation : Operation} {array : ArrayHandle} {index : Int32}
    (asks : (context.run mode program).Asks record (.operation operation))
    (touches : operation.element? = some (array, index)) :
    ∃ current,
      InTurn ⟨context.binding, mode.searchLimit⟩ program mode.watched 0 ⟨context.frameId, .empty⟩
        record current (.operation operation) ∧
      Measured current array index := by
  obtain ⟨current, turned⟩ := asks_runFrom ((context.asks_evaluate_iff _ _ _ _).1 asks)
  refine ⟨current, turned, ?_⟩
  cases turned with
  | intro passes found asks =>
      obtain impossible | ⟨made, rfl, executes⟩ | ⟨exception, more, other, same, telling⟩ :=
        asks_turn asks
      · cases impossible
      · obtain ⟨length, member, inside⟩ := measured_of_asks executes touches
        exact ⟨length, List.mem_append_right _ member, inside⟩
      · cases same
        rw [telling.element?_eq_none] at touches
        cases touches

theorem run_ne_invalidIndex (world : World) :
    ((context.run mode program).run World.handle world).1.1 ≠
      .error (.failed Heap.invalidIndex) := by
  intro failed
  have ended := ends_transcript World.handle (context.run mode program) world
  have answered := answered_transcript World.handle (context.run mode program) world
  generalize (context.run mode program).transcript World.handle world = record at ended answered
  rcases result : ((context.run mode program).run World.handle world).1 with ⟨outcome, after⟩
  rw [result] at failed ended
  obtain rfl : outcome = .error (.failed Heap.invalidIndex) := failed
  obtain ⟨activation, ends, -⟩ := (context.ends_evaluate_iff _ _ _ _ _).1 ended
  obtain exhausted | ⟨size, short⟩ | ⟨earlier, current, now, reached, last, rfl, -, -, broken⟩ :=
    ends_runFrom ends
  · cases exhausted
  · cases short
  · obtain ⟨between, -, rest⟩ := answered_append_iff.1 answered
    exact broken.ne_invalidIndex rest rfl

end Context

/-- How array indices are treated. -/
structure ChecksIndices (context : Context) (mode : RunMode) (program : Program) : Prop where
  /-- In the turn in which an element is touched its index was compared with the length. -/
  measured : ∀ record operation array index,
    (context.run mode program).Asks record (.operation operation) →
    operation.element? = some (array, index) →
    ∃ current,
      InTurn ⟨context.binding, mode.searchLimit⟩ program mode.watched 0 ⟨context.frameId, .empty⟩
        record current (.operation operation) ∧
      Measured current array index
  /-- Both instructions report the first fault of their operands and leave the elements alone. -/
  faults : ∀ setting activation array index value record error,
    Fault setting activation array index value record error →
    Untouched record ∧
      ∃ after, ((step setting (access value)).start
        (activation.over (array :: index :: value.toList))).Ends record
          (.error (.failed error), after)
  /-- Without a fault an element is touched. -/
  touches : ∀ setting activation array index value record operation,
    Faultless setting activation array index value record operation →
    ((step setting (access value)).start
      (activation.over (array :: index :: value.toList))).Asks record (.operation operation)
  valid : ∀ world, ((context.run mode program).run World.handle world).1.1 ≠
    .error (.failed Heap.invalidIndex)

/-- No index reaches the target that is not one of an element, in any run and whatever the target
answers. -/
theorem array_indices_are_checked
    (context : Context) (mode : RunMode) (program : Program) :
    ChecksIndices context mode program where
  measured _ _ _ _ asks touches := context.element_in_turn mode program asks touches
  faults _ _ _ _ _ _ _ fault := ⟨fault.untouched, access_fails fault⟩
  touches _ _ _ _ _ _ _ faultless := access_touches faultless
  valid := context.run_ne_invalidIndex mode program

/-- An array of booleans. -/
def flags : ArrayHandle :=
  ⟨5, .primitive .boolean⟩

def loadSecond : Program :=
  [.pushLiteral (.primitive (.char 1)), .pushLiteral (.array flags), .arrayLoad]

theorem second_flag_is_loaded :
    (Context.run ⟨⟨1, 0, ⟨1, 2, 3, 4⟩, .empty⟩, 7⟩ ⟨false, 3, 1⟩ loadSecond).Asks
        [success (.arrayLength flags) 2] (.operation (.arrayGet flags 1)) ∧
      (∃ current, Measured current flags 1) ∧
      ∃ after, ((step ⟨⟨1, 0, ⟨1, 2, 3, 4⟩, .empty⟩, 1⟩ .arrayLoad).start
        (Activation.over ⟨7, .empty⟩ [.array flags, .primitive (.char 1)])).Ends
          [success (.arrayLength flags) (-1)]
          (.error (.failed (.indexOutOfRange 1 (-1))), after) := by
  have checks :=
    array_indices_are_checked ⟨⟨1, 0, ⟨1, 2, 3, 4⟩, .empty⟩, 7⟩ ⟨false, 3, 1⟩ loadSecond
  have asks : (Context.run ⟨⟨1, 0, ⟨1, 2, 3, 4⟩, .empty⟩, 7⟩ ⟨false, 3, 1⟩ loadSecond).Asks
      [success (.arrayLength flags) 2] (.operation (.arrayGet flags 1)) := .later .here
  obtain ⟨current, -, measured⟩ := checks.measured _ _ _ _ asks rfl
  have position : (RemoteValue.primitive (.char 1)).Indexes 1 := ⟨_, rfl, by decide, by decide⟩
  have outside : ¬ (0 ≤ (1 : Int32).toInt ∧ (1 : Int32).toInt < (-1 : Int32).toInt) := by decide
  obtain ⟨-, refused⟩ := checks.faults ⟨⟨1, 0, ⟨1, 2, 3, 4⟩, .empty⟩, 1⟩ ⟨7, .empty⟩
    (.array flags) _ none _ _ (.outOfRange position outside)
  exact ⟨asks, ⟨current, measured⟩, refused⟩

end FrameEval
