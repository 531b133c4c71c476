import FrameEval.Proofs.Evaluation.Description
import FrameEval.Proofs.Evaluation.Misstep

/-!
# The order of operations

An instruction reads first.  It changes the target once at most, and afterwards it only fetches
its frame again, if the target ran code.  It touches an element of an array only after the length
of the array has been answered and the index compared with it.

The proof follows the text of the evaluations.  Whatever comes before a change only looks at the
target, and a change comes last; so an evaluation either leaves the record a record of readings,
or nothing is claimed of what it leaves.
-/

namespace FrameEval

open Wire

theorem Operation.runsCode_eq_false
    {operation : Operation} (reads : operation.isMutating = false) :
    operation.runsCode = false := by
  cases operation <;> first
    | rfl
    | cases reads

/-- An error that an evaluation may find on its own.  The only one that blames the protocol is
that of a frame which returned no value. -/
def EvalError.IsOwn : EvalError → Prop
  | protocol detail => ∃ name : String, detail = s!"no value returned for local {name}"
  | _ => True

theorem EvalError.isOwn_of_kind
    {error : EvalError} (semantic : error.kind = .valueSemantics) : error.IsOwn := by
  cases error <;> first
    | exact True.intro
    | cases semantic

theorem Semantic.own
    {α : Type} {result : Except EvalError α} (semantic : Semantic result) :
    FailsOnly EvalError.IsOwn result :=
  semantic.mono fun _ known => EvalError.isOwn_of_kind known

namespace Evaluation

variable {α β : Type}

/-! ## Records in order -/

/-- The questions of a record are operations of one kind. -/
def Only (kind : Operation → Prop) (record : Record) : Prop :=
  ∀ exchange ∈ record, ∃ operation, exchange.1 = .operation operation ∧ kind operation

section Only

variable {kind : Operation → Prop} {record more : Record} {operation : Operation}

theorem only_nil (kind : Operation → Prop) : Only kind [] :=
  fun _ none => (List.not_mem_nil none).elim

theorem only_singleton
    (known : kind operation) (answer : Except Halt operation.Answer) :
    Only kind [⟨.operation operation, answer⟩] := by
  intro exchange member
  rw [List.mem_singleton.1 member]
  exact ⟨operation, rfl, known⟩

theorem Only.append
    (only : Only kind record) (further : Only kind more) : Only kind (record ++ more) := by
  intro exchange member
  rcases List.mem_append.1 member with earlier | later
  · exact only exchange earlier
  · exact further exchange later

end Only

/-- The questions of a record are operations that only read. -/
abbrev Reading : Record → Prop :=
  Only fun operation => operation.isMutating = false

/-- The length of an array was answered, and an index is one of its elements. -/
def Measured (record : Record) (array : ArrayHandle) (index : Int32) : Prop :=
  ∃ length, success (.arrayLength array) length ∈ record ∧
    0 ≤ index.toInt ∧ index.toInt < length.toInt

variable (binding : Binding) (runs : Prop)

/-- An operation that may be put after the exchanges of a record.  Only where `runs` holds may
the target run code. -/
inductive Orderly : Record → Operation → Prop where
  | next
      {record : Record} {operation : Operation}
      (reading : Reading record)
      (measured : ∀ array index, operation.element? = some (array, index) →
        Measured record array index)
      (permitted : operation.runsCode = true → runs) :
      Orderly record operation
  | refetch
      {before : Record} {change : Operation} {outcome : change.Answer}
      (reading : Reading before) (changes : change.runsCode = true) (permitted : runs) :
      Orderly (before ++ [success change outcome]) (.frame binding.thread binding.depth)

/-- The ways in which an evaluation may stop early after the exchanges of a record. -/
inductive Stopped : Record → Halt → Prop where
  | own
      {record : Record} {error : EvalError} (reading : Reading record) (own : error.IsOwn) :
      Stopped record (.failed error)
  | exhausted
      {record : Record} (reading : Reading record) : Stopped record .exhausted
  | aborted
      {record : Record} (reading : Reading record) : Stopped record .aborted
  | refused
      {record : Record} {operation : Operation} {halt : Halt}
      (orderly : Orderly binding runs record operation) :
      Stopped (record ++ [failure operation halt]) halt
  | stale
      {before : Record} {change : Operation} {outcome : change.Answer} {info : FrameInfo}
      {detail : String}
      (reading : Reading before) (changes : change.runsCode = true) (permitted : runs)
      (gone : info.location.sameMethod binding.location = false) :
      Stopped
        (before ++ [success change outcome, success (.frame binding.thread binding.depth) info])
        (.failed (.staleFrame detail))

/-- The rule of what is in order. -/
def orderRule : Rule where
  asks record inquiry :=
    ∃ operation, inquiry = .operation operation ∧ Orderly binding runs record operation
  stops := Stopped binding runs

/-- An evaluation that only looks at the target. -/
abbrev Looks (evaluation : Evaluation α) : Prop :=
  Triple (orderRule binding runs) (fun record _ => Reading record) evaluation
    fun record _ _ => Reading record

/-- An evaluation that changes the target last, if it does. -/
abbrev Changes (evaluation : Evaluation α) : Prop :=
  Triple (orderRule binding runs) (fun record _ => Reading record) evaluation
    fun _ _ _ => True

variable {binding runs}

theorem Looks.changes
    {evaluation : Evaluation α} (looks : Looks binding runs evaluation) :
    Changes binding runs evaluation :=
  looks.weaken (fun _ _ reading => reading) fun _ _ _ _ => trivial

/-! ## Single operations -/

theorem admits_reading
    {record : Record} {operation : Operation} (reading : Reading record)
    (reads : operation.isMutating = false)
    (measured : ∀ array index, operation.element? = some (array, index) →
      Measured record array index) :
    (orderRule binding runs).Admits record operation fun later answer =>
      Reading later ∧ success operation answer ∈ later := by
  have permitted : operation.runsCode = true → runs := by
    intro runsCode
    rw [Operation.runsCode_eq_false reads] at runsCode
    cases runsCode
  refine
    { asks := ⟨operation, rfl, .next reading measured permitted⟩
      returns := fun answer => ⟨reading.append (only_singleton reads _), by simp⟩
      stops := fun halt => .refused (.next reading measured permitted) }

/-- An operation that touches no element needs no length. -/
theorem measured_of_none
    {record : Record} {operation : Operation} (apart : operation.element? = none) :
    ∀ array index, operation.element? = some (array, index) → Measured record array index := by
  intro array index touches
  rw [apart] at touches
  cases touches

theorem perform_answered
    {operation : Operation} (reads : operation.isMutating = false)
    (apart : operation.element? = none) :
    Triple (orderRule binding runs) (fun record _ => Reading record) (perform operation)
      fun record answer _ => Reading record ∧ success operation answer ∈ record :=
  .perform fun _ _ reading => admits_reading reading reads (measured_of_none apart)

theorem looks_perform
    {operation : Operation} (reads : operation.isMutating = false)
    (apart : operation.element? = none) :
    Looks binding runs (perform operation) :=
  (perform_answered reads apart).weaken (fun _ _ reading => reading) fun _ _ _ known => known.1

theorem changes_perform
    {operation : Operation} (apart : operation.element? = none)
    (permitted : operation.runsCode = true → runs) :
    Changes binding runs (perform operation) := by
  refine .perform fun record activation reading => ?_
  have orderly : Orderly binding runs record operation :=
    .next reading (measured_of_none apart) permitted
  exact ⟨⟨operation, rfl, orderly⟩, fun _ => trivial, fun _ => .refused orderly⟩

theorem looks_fail
    {error : EvalError} (own : error.IsOwn) : Looks binding runs (fail error : Evaluation α) :=
  .fail fun _ _ reading => .own reading own

theorem looks_pure (value : α) : Looks binding runs (pure value) :=
  .pure fun _ _ reading => reading

theorem looks_orAbort (split : Option α) : Looks binding runs (orAbort split) :=
  .orAbort (fun _ _ _ _ reading => reading) fun _ _ _ reading => .aborted reading

theorem looks_ofExcept
    {result : Except EvalError α} (own : FailsOnly EvalError.IsOwn result) :
    Looks binding runs (ofExcept result) :=
  .ofExcept (fun _ _ _ _ reading => reading)
    fun error failed _ _ reading => .own reading (own error failed)

theorem looks_onStack
    {action : OperandStack.Action α} (own : ∀ stack, FailsOnly EvalError.IsOwn (action stack).1) :
    Looks binding runs (onStack action) := by
  refine .onStack (fun _ _ _ _ reading _ => reading) ?_
  intro record activation error stack reading acted
  exact .own reading (own activation.stack error (congrArg Prod.fst acted))

theorem looks_push (value : RemoteValue) : Looks binding runs (push value) :=
  .modify fun _ _ reading => reading

/-- After a change values are only pushed. -/
theorem changed_push (value : RemoteValue) :
    Triple (orderRule binding runs) (fun _ _ => True) (push value) fun _ _ _ => True :=
  .modify fun _ _ _ => trivial

theorem looks_pop : Looks binding runs pop := by
  refine looks_onStack fun stack => ?_
  unfold OperandStack.pop
  cases stack.operands with
  | nil => exact failsOnly_error trivial
  | cons top below => exact failsOnly_ok top

theorem looks_popMany (count : Nat) :
    Looks binding runs (onStack (OperandStack.popMany count)) := by
  refine looks_onStack fun stack => ?_
  unfold OperandStack.popMany
  by_cases short : stack.operands.length < count
  · rw [if_pos short]
    exact failsOnly_error trivial
  · rw [if_neg short]
    exact failsOnly_ok _

/-! ## The hierarchy of types -/

variable {setting : Setting}

theorem looks_isAssignable
    (limit : Nat) (source target : String) :
    Looks binding runs (isAssignable limit source target) :=
  Triple.isAssignable (fun _ => looks_perform rfl rfl) (fun _ _ reading => .exhausted reading)
    limit source target

theorem looks_instanceOf
    (value : RemoteValue) (target : String) :
    Looks binding runs (instanceOf setting value target) :=
  (looks_perform rfl rfl).bind fun runtime => looks_isAssignable _ runtime target

/-! ## Values for a declared type -/

theorem looks_assign
    (value : RemoteValue) (declared : String) :
    Looks binding runs (assign setting value declared) := by
  have mismatch : Looks (α := RemoteValue) binding runs (fail (notAssignable value declared)) :=
    looks_fail trivial
  unfold assign
  cases PrimitiveKind.ofSignature? declared with
  | some kind =>
      cases value with
      | primitive given =>
          dsimp only
          split
          · exact looks_ofExcept ((given.semantic_cast kind).own.map _)
          · exact mismatch
      | object | array | null | void => exact mismatch
  | none =>
      cases value with
      | null => exact looks_pure _
      | primitive | void => exact mismatch
      | object | array =>
          refine (looks_instanceOf _ declared).bind fun answer => ?_
          cases answer with
          | true => exact looks_pure _
          | false => exact mismatch

theorem looks_assignAll
    (arguments : List RemoteValue) (parameters : List String) :
    Looks binding runs (assignAll setting arguments parameters) := by
  induction arguments generalizing parameters with
  | nil => exact looks_pure _
  | cons argument arguments ih =>
      cases parameters with
      | nil => exact looks_pure _
      | cons parameter parameters =>
          refine (looks_assign argument parameter).bind fun first => ?_
          exact (ih parameters).bind fun rest => looks_pure _

theorem looks_convertArguments
    (method : MethodRef) (arguments : List RemoteValue) :
    Looks binding runs (convertArguments setting method arguments) := by
  refine (looks_orAbort _).bind fun parameters => ?_
  dsimp only
  split
  · exact looks_fail trivial
  · exact looks_assignAll arguments _

/-! ## The bound frame -/

theorem looks_get : Looks binding runs get :=
  .get fun _ _ reading => reading

theorem looks_currentReceiver : Looks binding runs (currentReceiver setting) :=
  looks_get.bind fun _ => looks_perform rfl rfl

theorem looks_slotOf (name : String) : Looks binding runs (slotOf setting name) := by
  rw [slotOf]
  split
  · exact looks_pure _
  · exact looks_fail trivial

theorem looks_localVariable (name : String) : Looks binding runs (localVariable setting name) := by
  refine (looks_slotOf name).bind fun slot => ?_
  refine looks_get.bind fun current => ?_
  refine Triple.bind (looks_perform rfl rfl) fun values => ?_
  split
  · exact looks_pure _
  · exact looks_fail ⟨name, rfl⟩

theorem changes_setLocalVariable
    (name : String) (value : RemoteValue) :
    Changes binding runs (setLocalVariable setting name value) := by
  refine (looks_slotOf name).bind fun slot => ?_
  refine (looks_assign value slot.signature).bind fun stored => ?_
  refine looks_get.bind fun current => ?_
  exact changes_perform rfl nofun

/-! ## Invocations -/

/-- The target runs code, and the frame is fetched again. -/
theorem changes_run_code
    {operation : Operation} (apart : operation.element? = none)
    (runsCode : operation.runsCode = true) (permitted : runs) :
    Triple (orderRule setting.binding runs) (fun record _ => Reading record)
      (do
        let answer ← perform operation
        revalidate setting
        return answer)
      fun _ _ _ => True := by
  refine Triple.via (fun record answer _ =>
      ∃ before, Reading before ∧ record = before ++ [success operation answer])
    (.perform ?_) fun answer => ?_
  · intro record activation reading
    have orderly : Orderly setting.binding runs record operation :=
      .next reading (measured_of_none apart) fun _ => permitted
    exact ⟨⟨operation, rfl, orderly⟩, fun answer => ⟨record, reading, rfl⟩,
      fun _ => .refused orderly⟩
  refine Triple.via (fun _ _ _ => True) (revalidate_triple setting ?_) fun _ =>
    .pure fun _ _ _ => trivial
  rintro record activation ⟨before, reading, rfl⟩
  have orderly : Orderly setting.binding runs (before ++ [success operation answer])
      (.frame setting.binding.thread setting.binding.depth) :=
    .refetch reading runsCode permitted
  refine
    { asks := ⟨_, rfl, orderly⟩
      returns := ?returns
      stops := fun _ => .refused orderly }
  case returns =>
    intro info
    refine ⟨fun _ => trivial, fun gone detail => ?_⟩
    rw [List.append_assoc]
    exact .stale reading runsCode permitted gone

theorem changes_invokeFound
    (receiver : Option RemoteValue) (method : MethodRef) (arguments : List RemoteValue)
    (permitted : runs) :
    Changes setting.binding runs (invokeFound setting receiver method arguments) :=
  (looks_convertArguments method arguments).bind fun _ => changes_run_code rfl rfl permitted

theorem changes_invoke
    (receiver : RemoteValue) (selector : MethodSelector) (arguments : List RemoteValue)
    (permitted : runs) :
    Changes setting.binding runs (invoke setting receiver selector arguments) := by
  cases receiver with
  | null | primitive | void => exact Looks.changes (looks_fail trivial)
  | object | array =>
      refine Triple.bind (looks_perform rfl rfl) fun method => ?_
      exact changes_invokeFound _ method arguments permitted

theorem changes_invokeStatic
    (className : String) (selector : MethodSelector) (arguments : List RemoteValue)
    (permitted : runs) :
    Changes setting.binding runs (invokeStatic setting className selector arguments) := by
  refine Triple.bind (looks_perform rfl rfl) fun method => ?_
  exact changes_invokeFound none method arguments permitted

theorem changes_construct
    (className : String) (selector : MethodSelector) (arguments : List RemoteValue)
    (permitted : runs) :
    Changes setting.binding runs (construct setting className selector arguments) := by
  refine Triple.bind (looks_perform rfl rfl) fun constructor => ?_
  refine (looks_convertArguments constructor arguments).bind fun stored => ?_
  exact changes_run_code rfl rfl permitted

/-! ## Arrays -/

theorem looks_popArray : Looks binding runs popArray := by
  refine looks_pop.bind fun value => ?_
  cases value with
  | array handle => exact looks_pure handle
  | null | object | primitive | void => exact looks_fail trivial

theorem looks_popInt (role : String) : Looks binding runs (popInt role) := by
  refine looks_pop.bind fun value => ?_
  cases value with
  | primitive given =>
      dsimp only
      split
      · exact looks_pure _
      · exact looks_fail trivial
  | array | null | object | void => exact looks_fail trivial

theorem lasting_measured
    (array : ArrayHandle) (index : Int32) :
    Lasting fun record => Measured record array index := by
  rintro record added ⟨length, member, inside⟩
  exact ⟨length, List.mem_append_left _ member, inside⟩

/-- The comparison with the length refuses the indices that are not those of elements. -/
theorem outOfBounds_iff
    {index length : Int32} :
    (decide (index < 0) || decide (index ≥ length)) = true ↔
      ¬ (0 ≤ index.toInt ∧ index.toInt < length.toInt) := by
  rw [Bool.or_eq_true, decide_eq_true_iff, decide_eq_true_iff, Int32.lt_iff_toInt_lt, ge_iff_le,
    Int32.le_iff_toInt_le]
  have zero : (0 : Int32).toInt = 0 := rfl
  omega

/-- An index passes the check if it is an element of the array. -/
theorem checkBounds_measures
    (array : ArrayHandle) (index : Int32) :
    Triple (orderRule binding runs) (fun record _ => Reading record) (checkBounds array index)
      fun record _ _ => Reading record ∧ Measured record array index := by
  refine Triple.bind (perform_answered rfl rfl) fun length => ?_
  split
  · exact .fail fun _ _ known => .own known.1 trivial
  · next passes =>
      refine .pure ?_
      intro record activation known
      exact ⟨known.1, length, known.2, not_not.1 (mt outOfBounds_iff.2 passes)⟩

/-- An element is touched once its index has been compared with the length. -/
theorem perform_element
    {operation : Operation} {array : ArrayHandle} {index : Int32}
    (touches : operation.element? = some (array, index)) (codeless : operation.runsCode = false) :
    Triple (orderRule binding runs)
      (fun record _ => Reading record ∧ Measured record array index) (perform operation)
      fun _ _ _ => True := by
  refine .perform ?_
  rintro record activation ⟨reading, measured⟩
  have orderly : Orderly binding runs record operation := by
    refine .next reading ?_ ?_
    · intro other place same
      rw [touches] at same
      cases same
      exact measured
    · intro runsCode
      rw [codeless] at runsCode
      cases runsCode
  exact ⟨⟨operation, rfl, orderly⟩, fun _ => trivial, fun _ => .refused orderly⟩

theorem changes_arrayLoad : Changes binding runs arrayLoad := by
  refine looks_popArray.bind fun array => ?_
  refine (looks_popInt "array index").bind fun index => ?_
  refine (checkBounds_measures array index).bind fun _ => ?_
  exact (perform_element rfl rfl).bind fun element => changed_push element

theorem changes_arrayStore : Changes binding runs (arrayStore setting) := by
  refine looks_popArray.bind fun array => ?_
  refine (looks_popInt "array index").bind fun index => ?_
  refine looks_pop.bind fun value => ?_
  refine (checkBounds_measures array index).bind fun _ => ?_
  -- The types of the value are looked up after the comparison, which stays on the record.
  refine ((looks_assign value array.element.signature).frame
    (lasting_measured array index)).bind fun stored => ?_
  exact perform_element rfl rfl

theorem looks_arrayLength : Looks binding runs arrayLength := by
  refine looks_popArray.bind fun array => ?_
  exact Triple.bind (looks_perform rfl rfl) fun length => looks_push (.int length)

theorem changes_newArray (signature : String) : Changes binding runs (newArray signature) := by
  rw [newArray]
  split
  · refine (looks_popInt "array size").bind fun length => ?_
    split
    · exact Looks.changes (looks_fail trivial)
    · exact Triple.bind (changes_perform rfl nofun) fun array => changed_push array
  · exact Looks.changes (looks_fail trivial)

/-! ## Fields -/

theorem looks_checkReceiver
    (receiver : RemoteValue) (member : String) :
    Looks binding runs (checkReceiver receiver member) := by
  cases receiver with
  | object | array => exact looks_pure ()
  | null | primitive | void => exact looks_fail trivial

theorem looks_readField
    (receiver : RemoteValue) (name : String) : Looks binding runs (readField receiver name) := by
  refine Triple.bind (looks_perform rfl rfl) fun field => ?_
  exact Triple.bind (looks_perform rfl rfl) fun value => looks_push value

theorem looks_fieldGet (name : String) : Looks binding runs (fieldGet name) := by
  refine looks_pop.bind fun receiver => ?_
  refine (looks_checkReceiver receiver name).bind fun _ => ?_
  cases receiver with
  | array handle =>
      show Triple _ _ (if name = "length" then _ else _) _
      split
      · exact Triple.bind (looks_perform rfl rfl) fun length => looks_push (.int length)
      · exact looks_readField _ name
  | object | null | primitive | void => exact looks_readField _ name

theorem changes_fieldSet (name : String) : Changes binding runs (fieldSet setting name) := by
  refine looks_pop.bind fun value => ?_
  refine looks_pop.bind fun receiver => ?_
  refine (looks_checkReceiver receiver name).bind fun _ => ?_
  refine Triple.bind (looks_perform rfl rfl) fun field => ?_
  refine (looks_assign value field.signature).bind fun stored => ?_
  exact changes_perform rfl nofun

theorem looks_staticFieldGet
    (className name : String) : Looks binding runs (staticFieldGet className name) := by
  refine Triple.bind (looks_perform rfl rfl) fun field => ?_
  exact Triple.bind (looks_perform rfl rfl) fun value => looks_push value

theorem changes_staticFieldSet
    (className name : String) : Changes binding runs (staticFieldSet setting className name) := by
  refine looks_pop.bind fun value => ?_
  refine Triple.bind (looks_perform rfl rfl) fun field => ?_
  refine (looks_assign value field.signature).bind fun stored => ?_
  exact changes_perform rfl nofun

/-! ## Methods -/

theorem changed_complete (outcome : InvokeOutcome) :
    Triple (orderRule binding runs) (fun _ _ => True) (complete outcome) fun _ _ _ => True := by
  cases outcome with
  | returned value => exact changed_push value
  | threw exception => exact .modify fun _ _ _ => trivial

theorem changes_invokeMethod
    (selector : MethodSelector) (permitted : runs) :
    Changes setting.binding runs (invokeMethod setting selector) := by
  refine (looks_popMany selector.arity).bind fun arguments => ?_
  refine looks_pop.bind fun receiver => ?_
  exact (changes_invoke receiver selector arguments permitted).bind fun outcome =>
    changed_complete outcome

theorem changes_invokeStaticMethod
    (className : String) (selector : MethodSelector) (permitted : runs) :
    Changes setting.binding runs (invokeStaticMethod setting className selector) := by
  refine (looks_popMany selector.arity).bind fun arguments => ?_
  exact (changes_invokeStatic className selector arguments permitted).bind fun outcome =>
    changed_complete outcome

theorem changes_newObject
    (className : String) (selector : MethodSelector) (permitted : runs) :
    Changes setting.binding runs (newObject setting className selector) := by
  refine (looks_popMany selector.arity).bind fun arguments => ?_
  exact (changes_construct className selector arguments permitted).bind fun outcome =>
    changed_complete outcome

/-! ## Operators -/

theorem looks_binary (op : BinaryOp) : Looks binding runs (binary op) := by
  refine looks_pop.bind fun right => ?_
  refine looks_pop.bind fun left => ?_
  exact (looks_ofExcept (semantic_applyBinary op left right).own).bind fun result =>
    looks_push result

theorem looks_unary (op : UnaryOp) : Looks binding runs (unary op) := by
  refine looks_pop.bind fun value => ?_
  cases value with
  | primitive operand =>
      exact (looks_ofExcept (op.semantic_apply operand).own).bind fun result =>
        looks_push (.primitive result)
  | array | object | null | void => exact looks_fail trivial

theorem looks_castReference
    (value : RemoteValue) (signature : String) :
    Looks binding runs (castReference setting value signature) := by
  cases value with
  | null => exact looks_pure _
  | primitive | void => exact looks_fail trivial
  | object | array =>
      refine (looks_instanceOf _ signature).bind fun answer => ?_
      cases answer with
      | true => exact looks_pure _
      | false => exact Triple.bind (looks_perform rfl rfl) fun runtime => looks_fail trivial

theorem looks_cast (signature : String) : Looks binding runs (cast setting signature) := by
  refine looks_pop.bind fun value => ?_
  cases PrimitiveKind.ofSignature? signature with
  | some kind =>
      cases value with
      | primitive given =>
          exact (looks_ofExcept (given.semantic_cast kind).own).bind fun result =>
            looks_push (.primitive result)
      | array | object | null | void => exact looks_fail trivial
  | none => exact (looks_castReference value signature).bind fun result => looks_push result

theorem looks_testInstance
    (signature : String) : Looks binding runs (testInstance setting signature) := by
  refine looks_pop.bind fun value => ?_
  cases value with
  | null => exact looks_push (.boolean false)
  | primitive | void => exact looks_fail trivial
  | object | array =>
      exact (looks_instanceOf _ signature).bind fun answer => looks_push (.boolean answer)

theorem looks_popCondition : Looks binding runs popCondition := by
  refine looks_pop.bind fun value => ?_
  cases value with
  | primitive given =>
      cases given with
      | boolean value => exact looks_pure value
      | byte | char | short | int | long | float | double => exact looks_fail trivial
  | array | object | null | void => exact looks_fail trivial

/-! ## Locals -/

theorem looks_pushLocal (name : String) : Looks binding runs (pushLocal setting name) := by
  refine looks_get.bind fun activation => ?_
  split
  · exact looks_push _
  · exact (looks_localVariable name).bind fun value => looks_push value

theorem looks_assignLocal
    (name : String) (value : RemoteValue) :
    Looks binding runs (onStack (OperandStack.assignLocal name value)) := by
  refine looks_onStack fun stack => ?_
  unfold OperandStack.assignLocal
  split
  · exact failsOnly_ok _
  · next old found =>
      split
      · exact failsOnly_ok _
      · next failed =>
          exact failsOnly_error ((OperandStack.semantic_converted name old value).own _ failed)

theorem changes_storeLocal (name : String) : Changes binding runs (storeLocal setting name) := by
  refine looks_pop.bind fun value => ?_
  refine (looks_assignLocal name value).bind fun declared => ?_
  cases declared with
  | true => exact (looks_pure ()).changes
  | false => exact changes_setLocalVariable name value

theorem looks_declareLocal
    (name : String) (initial : RemoteValue) :
    Looks binding runs (onStack (OperandStack.declareLocal name initial)) := by
  refine looks_onStack fun stack => ?_
  unfold OperandStack.declareLocal
  split
  · exact failsOnly_error trivial
  · exact failsOnly_ok _

theorem looks_setTemporary
    (slot : Nat) (value : RemoteValue) :
    Looks binding runs (onStack (OperandStack.setTemporary slot value)) := by
  refine looks_onStack fun stack => ?_
  unfold OperandStack.setTemporary
  split
  · exact failsOnly_ok _
  · exact failsOnly_error trivial

theorem looks_temporary
    (slot : Nat) (stack : OperandStack) : Looks binding runs (ofExcept (stack.temporary slot)) := by
  refine looks_ofExcept ?_
  rw [OperandStack.temporary]
  split
  · split
    · exact failsOnly_ok _
    · exact failsOnly_error trivial
  · exact failsOnly_error trivial

theorem looks_dup : Looks binding runs (onStack OperandStack.dup) := by
  refine looks_onStack fun stack => ?_
  unfold OperandStack.dup
  cases stack.operands with
  | nil => exact failsOnly_error trivial
  | cons top below => exact failsOnly_ok ()

end Evaluation

/-! ## All instructions -/

/-- Whether an instruction lets the target run code. -/
def Instruction.runsCode : Instruction → Bool
  | invoke _ => true
  | invokeStatic _ _ => true
  | new _ _ => true
  | _ => false

namespace Evaluation

variable {setting : Setting}

theorem changes_thenNext
    {binding : Binding} {runs : Prop} {evaluation : Evaluation Unit}
    (changes : Changes binding runs evaluation) :
    Changes binding runs (do evaluation; return Flow.next) :=
  changes.bind fun _ => .pure fun _ _ _ => trivial

/-- Every instruction keeps to the order, and only those that run code may do so. -/
theorem changes_step
    (setting : Setting) (instruction : Instruction) :
    Changes setting.binding (instruction.runsCode = true) (step setting instruction) := by
  cases instruction with
  | pushLiteral value => exact changes_thenNext (looks_push value).changes
  | pushString text =>
      exact Triple.bind (changes_perform rfl nofun) fun string =>
        (changed_push string).bind fun _ => .pure fun _ _ _ => trivial
  | pushThis =>
      exact looks_currentReceiver.bind fun receiver =>
        changes_thenNext (looks_push receiver).changes
  | pushLocal name => exact changes_thenNext (looks_pushLocal name).changes
  | storeLocal name => exact changes_thenNext (changes_storeLocal name)
  | declareLocal name =>
      exact looks_pop.bind fun initial => changes_thenNext (looks_declareLocal name initial).changes
  | loadTemporary slot =>
      refine looks_get.bind fun activation => ?_
      exact (looks_temporary slot activation.stack).bind fun value =>
        changes_thenNext (looks_push value).changes
  | storeTemporary slot =>
      exact looks_pop.bind fun value => changes_thenNext (looks_setTemporary slot value).changes
  | pop => exact looks_pop.bind fun value => (looks_pure _).changes
  | dup => exact changes_thenNext looks_dup.changes
  | arrayLoad => exact changes_thenNext changes_arrayLoad
  | arrayStore => exact changes_thenNext changes_arrayStore
  | arrayLength => exact changes_thenNext looks_arrayLength.changes
  | newArray signature => exact changes_thenNext (changes_newArray signature)
  | fieldGet name => exact changes_thenNext (looks_fieldGet name).changes
  | fieldSet name => exact changes_thenNext (changes_fieldSet name)
  | staticFieldGet className name =>
      exact changes_thenNext (looks_staticFieldGet className name).changes
  | staticFieldSet className name => exact changes_thenNext (changes_staticFieldSet className name)
  | invoke method => exact changes_thenNext (changes_invokeMethod method rfl)
  | invokeStatic className method =>
      exact changes_thenNext (changes_invokeStaticMethod className method rfl)
  | new className constructor =>
      exact changes_thenNext (changes_newObject className constructor rfl)
  | cast signature => exact changes_thenNext (looks_cast signature).changes
  | instanceOf signature => exact changes_thenNext (looks_testInstance signature).changes
  | binary op => exact changes_thenNext (looks_binary op).changes
  | unary op => exact changes_thenNext (looks_unary op).changes
  | jump target => exact (looks_pure _).changes
  | jumpIfTrue target =>
      refine looks_popCondition.bind fun condition => ?_
      cases condition with
      | true => exact (looks_pure _).changes
      | false => exact (looks_pure _).changes
  | jumpIfFalse target =>
      refine looks_popCondition.bind fun condition => ?_
      cases condition with
      | true => exact (looks_pure _).changes
      | false => exact (looks_pure _).changes

theorem step_meets
    (setting : Setting) (instruction : Instruction) (activation : Activation) :
    ((step setting instruction).start activation).Meets
      (orderRule setting.binding (instruction.runsCode = true)).asks
      ((orderRule setting.binding (instruction.runsCode = true)).ends fun _ _ _ => True) [] :=
  changes_step setting instruction [] activation (only_nil _)

variable {instruction : Instruction} {activation after : Activation} {record : Record}

theorem orderly_of_asks
    {asked : Inquiry} (asks : ((step setting instruction).start activation).Asks record asked) :
    ∃ operation, asked = .operation operation ∧
      Orderly setting.binding (instruction.runsCode = true) record operation :=
  ((Dialogue.meets_iff _ _).1 (step_meets setting instruction activation)).1 record asked asks

theorem stopped_of_ends
    {halt : Halt}
    (ends : ((step setting instruction).start activation).Ends record (.error halt, after)) :
    Stopped setting.binding (instruction.runsCode = true) record halt :=
  ((Dialogue.meets_iff _ _).1 (step_meets setting instruction activation)).2 record _ ends

/-- An instruction touches an element whose index it has compared with the length. -/
theorem measured_of_asks
    {operation : Operation} {array : ArrayHandle} {index : Int32}
    (asks : ((step setting instruction).start activation).Asks record (.operation operation))
    (touches : operation.element? = some (array, index)) :
    Measured record array index := by
  obtain ⟨_, ⟨⟩, orderly⟩ := orderly_of_asks asks
  cases orderly with
  | next reading measured permitted => exact measured array index touches
  | refetch reading runsCode permitted => cases touches

end Evaluation

end FrameEval
