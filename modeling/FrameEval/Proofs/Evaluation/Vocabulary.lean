import FrameEval.Proofs.Evaluation.Order
import FrameEval.Proofs.Evaluation.Turn
import FrameEval.Proofs.StackOperations

/-!
# Vocabularies of instructions

The operations that an instruction may put are known from its text: `MayPut` lists them, with the
names and the classes that the text gives.  Of what the evaluation carries an instruction changes
little.  A completed one leaves the bindings of the locals alone, except that of the name that it
binds, and the exception in flight, unless it lets the target run code.

The proof follows the text of the evaluations once, for every fact about the activation that has
its `Footing` in such an instruction.
-/

namespace FrameEval

open Wire

/-- Whether an instruction may compare the runtime type of a value with a declared type. -/
def Instruction.comparesTypes : Instruction → Bool
  | storeLocal _ => true
  | arrayStore => true
  | fieldSet _ => true
  | staticFieldSet _ _ => true
  | invoke _ => true
  | invokeStatic _ _ => true
  | new _ _ => true
  | cast _ => true
  | instanceOf _ => true
  | _ => false

/-- The name of the local that an instruction may bind. -/
def Instruction.binds? : Instruction → Option String
  | storeLocal name => some name
  | declareLocal name => some name
  | _ => none

namespace Evaluation

/-- The operations that an instruction may put while the frame has an id. -/
inductive MayPut (binding : Binding) (id : FrameId) : Instruction → Operation → Prop where
  | createString (text : String) : MayPut binding id (.pushString text) (.createString text)
  | thisObject : MayPut binding id .pushThis (.thisObject binding.thread id)
  | frameValues
      {name : String} {slot : LocalSlot} (found : binding.symbols.find? name = some slot) :
      MayPut binding id (.pushLocal name) (.frameValues binding.thread id [slot])
  | setFrameValue
      {name : String} {slot : LocalSlot} (found : binding.symbols.find? name = some slot)
      (value : RemoteValue) :
      MayPut binding id (.storeLocal name) (.setFrameValue binding.thread id slot value)
  | typeSignature
      {instruction : Instruction} (compares : instruction.comparesTypes = true)
      (value : RemoteValue) : MayPut binding id instruction (.typeSignature value)
  | supertypes
      {instruction : Instruction} (compares : instruction.comparesTypes = true)
      (signature : String) : MayPut binding id instruction (.supertypes signature)
  | lengthToLoad (array : ArrayHandle) : MayPut binding id .arrayLoad (.arrayLength array)
  | arrayGet (array : ArrayHandle) (index : Int32) :
      MayPut binding id .arrayLoad (.arrayGet array index)
  | lengthToStore (array : ArrayHandle) : MayPut binding id .arrayStore (.arrayLength array)
  | arraySet (array : ArrayHandle) (index : Int32) (value : RemoteValue) :
      MayPut binding id .arrayStore (.arraySet array index value)
  | arrayLength (array : ArrayHandle) : MayPut binding id .arrayLength (.arrayLength array)
  | newArray (signature : String) (length : Int32) :
      MayPut binding id (.newArray signature) (.newArray signature length)
  | lengthAsField (name : String) (array : ArrayHandle) :
      MayPut binding id (.fieldGet name) (.arrayLength array)
  | fieldToGet (name : String) (receiver : RemoteValue) :
      MayPut binding id (.fieldGet name) (.instanceField receiver name)
  | getField (name : String) (receiver : RemoteValue) (field : FieldRef) :
      MayPut binding id (.fieldGet name) (.getField (some receiver) field)
  | fieldToSet (name : String) (receiver : RemoteValue) :
      MayPut binding id (.fieldSet name) (.instanceField receiver name)
  | setField (name : String) (receiver : RemoteValue) (field : FieldRef) (value : RemoteValue) :
      MayPut binding id (.fieldSet name) (.setField (some receiver) field value)
  | staticFieldToGet (className name : String) :
      MayPut binding id (.staticFieldGet className name) (.staticField className name)
  | getStaticField (className name : String) (field : FieldRef) :
      MayPut binding id (.staticFieldGet className name) (.getField none field)
  | staticFieldToSet (className name : String) :
      MayPut binding id (.staticFieldSet className name) (.staticField className name)
  | setStaticField (className name : String) (field : FieldRef) (value : RemoteValue) :
      MayPut binding id (.staticFieldSet className name) (.setField none field value)
  | instanceMethod (selector : MethodSelector) (receiver : RemoteValue) :
      MayPut binding id (.invoke selector) (.instanceMethod receiver selector)
  | invoke
      (selector : MethodSelector) (receiver : RemoteValue) (method : MethodRef)
      (arguments : List RemoteValue) :
      MayPut binding id (.invoke selector)
        (.invoke binding.thread (some receiver) method arguments)
  | staticMethod (className : String) (selector : MethodSelector) :
      MayPut binding id (.invokeStatic className selector) (.staticMethod className selector)
  | invokeStatic
      (className : String) (selector : MethodSelector) (method : MethodRef)
      (arguments : List RemoteValue) :
      MayPut binding id (.invokeStatic className selector)
        (.invoke binding.thread none method arguments)
  | constructor (className : String) (selector : MethodSelector) :
      MayPut binding id (.new className selector) (.constructor className selector)
  | newInstance
      (className : String) (selector : MethodSelector) (constructor : MethodRef)
      (arguments : List RemoteValue) :
      MayPut binding id (.new className selector)
        (.newInstance binding.thread constructor arguments)
  | refetch
      {instruction : Instruction} (runsCode : instruction.runsCode = true) :
      MayPut binding id instruction (.frame binding.thread binding.depth)

/-- A fact about what an evaluation carries that an instruction leaves as it is. -/
structure Footing (instruction : Instruction) (fact : Activation → Prop) : Prop where
  restacked : ∀ {activation : Activation} (stack : OperandStack), fact activation →
    (∀ name, instruction.binds? ≠ some name →
      stack.local? name = activation.stack.local? name) →
    stack.exception = activation.stack.exception → fact { activation with stack := stack }
  relocated : instruction.runsCode = true → ∀ {activation : Activation} (id : FrameId),
    fact activation → fact { activation with frameId := id }
  raised : instruction.runsCode = true → ∀ {activation : Activation} (exception : ObjectHandle),
    fact activation → fact { activation with stack := activation.stack.raise exception }

/-- The rule of a vocabulary. -/
def vocabularyRule (binding : Binding) (id : FrameId) (instruction : Instruction) : Rule where
  asks _ inquiry :=
    ∃ operation, inquiry = .operation operation ∧ MayPut binding id instruction operation
  stops _ _ := True

section Vocabulary

variable (binding : Binding) (id : FrameId) (instruction : Instruction)
  (fact : Activation → Prop)

/-- What an evaluation carries is as the fact says, and the frame has the id. -/
def Carried (_record : Record) (activation : Activation) : Prop :=
  fact activation ∧ activation.frameId = id

variable {α : Type}

/-- An evaluation that keeps to the vocabulary of an instruction and keeps a fact. -/
abbrev Keeps (evaluation : Evaluation α) : Prop :=
  Triple (vocabularyRule binding id instruction) (Carried id fact) evaluation
    fun record _ activation => Carried id fact record activation

/-- The same of one after which the frame may have another id. -/
abbrev Leads (evaluation : Evaluation α) : Prop :=
  Triple (vocabularyRule binding id instruction) (Carried id fact) evaluation
    fun _ _ activation => fact activation

end Vocabulary

variable {α : Type} {binding : Binding} {id : FrameId} {instruction : Instruction}
  {fact : Activation → Prop}

/-! ## Single operations -/

theorem Keeps.leads
    {evaluation : Evaluation α} (keeps : Keeps binding id instruction fact evaluation) :
    Leads binding id instruction fact evaluation :=
  keeps.weaken (fun _ _ carried => carried) fun _ _ _ carried => carried.1

theorem keeps_pure (value : α) : Keeps binding id instruction fact (pure value) :=
  .pure fun _ _ carried => carried

theorem keeps_fail
    (error : EvalError) : Keeps binding id instruction fact (fail error : Evaluation α) :=
  .fail fun _ _ _ => trivial

theorem keeps_orAbort
    (split : Option α) : Keeps binding id instruction fact (orAbort split) :=
  .orAbort (fun _ _ _ _ carried => carried) fun _ _ _ _ => trivial

theorem keeps_ofExcept
    (result : Except EvalError α) : Keeps binding id instruction fact (ofExcept result) :=
  .ofExcept (fun _ _ _ _ carried => carried) fun _ _ _ _ _ => trivial

theorem keeps_get : Keeps binding id instruction fact get :=
  .get fun _ _ carried => carried

/-- What is known of the activation is known of the one that an evaluation looks at. -/
theorem Keeps.reading
    {onward : Activation → Evaluation α}
    (rest : ∀ current, current.frameId = id →
      Keeps binding id instruction fact (onward current)) :
    Keeps binding id instruction fact (MonadState.get >>= onward) := by
  refine Triple.reading fun current => ?_
  rintro record activation ⟨carried, rfl⟩
  exact rest activation carried.2 record activation carried

theorem keeps_perform
    {operation : Operation} (put : MayPut binding id instruction operation) :
    Keeps binding id instruction fact (perform operation) :=
  .perform fun _ _ carried =>
    { asks := ⟨operation, rfl, put⟩
      returns := fun _ => carried
      stops := fun _ => trivial }

variable (footing : Footing instruction fact)

include footing

/-- An operation on the stack changes its own component at most. -/
theorem Footing.onStack
    (operation : OperandStack.Fallible)
    (within : ∀ name, operation.component? = some (.binding name) →
      instruction.binds? = some name)
    (calm : operation.component? ≠ some .exception) :
    Keeps binding id instruction fact (Evaluation.onStack operation.carryOut) := by
  refine .onStack ?_ fun _ _ _ _ _ _ => trivial
  intro record activation result stack carried acted
  have apart := operation.confined.succeeded activation.stack result stack acted
  refine ⟨footing.restacked stack carried.1 (fun name free => ?_) (apart .exception calm),
    carried.2⟩
  exact apart (.binding name) fun own => free (within name own)

theorem Footing.push
    (value : RemoteValue) : Keeps binding id instruction fact (Evaluation.push value) :=
  .modify fun _ activation carried =>
    ⟨footing.restacked (activation.stack.push value) carried.1 (fun _ _ => rfl) rfl, carried.2⟩

theorem Footing.pop : Keeps binding id instruction fact Evaluation.pop :=
  footing.onStack .pop (fun _ other => nomatch other) (fun other => nomatch other)

theorem Footing.popMany
    (count : Nat) :
    Keeps binding id instruction fact (Evaluation.onStack (OperandStack.popMany count)) :=
  footing.onStack (.popMany count) (fun _ other => nomatch other) (fun other => nomatch other)

theorem Footing.dup : Keeps binding id instruction fact (Evaluation.onStack OperandStack.dup) :=
  footing.onStack .dup (fun _ other => nomatch other) (fun other => nomatch other)

theorem Footing.setTemporary
    (slot : Nat) (value : RemoteValue) :
    Keeps binding id instruction fact (Evaluation.onStack (OperandStack.setTemporary slot value)) :=
  footing.onStack (.setTemporary slot value) (fun _ other => nomatch other)
    (fun other => nomatch other)

theorem Footing.declareLocal
    {name : String} (binds : instruction.binds? = some name) (initial : RemoteValue) :
    Keeps binding id instruction fact
      (Evaluation.onStack (OperandStack.declareLocal name initial)) := by
  refine footing.onStack (.declareLocal name initial) ?_ (fun other => nomatch other)
  rintro other ⟨⟩
  exact binds

theorem Footing.assignLocal
    {name : String} (binds : instruction.binds? = some name) (value : RemoteValue) :
    Keeps binding id instruction fact
      (Evaluation.onStack (OperandStack.assignLocal name value)) := by
  refine footing.onStack (.assignLocal name value) ?_ (fun other => nomatch other)
  rintro other ⟨⟩
  exact binds

omit footing

/-! ## The hierarchy of types -/

variable {setting : Setting}

theorem keeps_isAssignable
    (compares : instruction.comparesTypes = true) (limit : Nat) (source target : String) :
    Keeps binding id instruction fact (isAssignable limit source target) :=
  Triple.isAssignable (fun type => keeps_perform (.supertypes compares type))
    (fun _ _ _ => trivial) limit source target

theorem keeps_instanceOf
    (compares : instruction.comparesTypes = true) (value : RemoteValue) (target : String) :
    Keeps binding id instruction fact (instanceOf setting value target) :=
  (keeps_perform (.typeSignature compares value)).bind fun runtime =>
    keeps_isAssignable compares _ runtime target

theorem keeps_assign
    (compares : instruction.comparesTypes = true) (value : RemoteValue) (declared : String) :
    Keeps binding id instruction fact (assign setting value declared) := by
  unfold assign
  cases PrimitiveKind.ofSignature? declared with
  | some kind =>
      cases value with
      | primitive given =>
          dsimp only
          split
          · exact keeps_ofExcept _
          · exact keeps_fail _
      | object | array | null | void => exact keeps_fail _
  | none =>
      cases value with
      | null => exact keeps_pure _
      | primitive | void => exact keeps_fail _
      | object | array =>
          refine (keeps_instanceOf compares _ declared).bind fun answer => ?_
          cases answer with
          | true => exact keeps_pure _
          | false => exact keeps_fail _

theorem keeps_assignAll
    (compares : instruction.comparesTypes = true) (arguments : List RemoteValue)
    (parameters : List String) :
    Keeps binding id instruction fact (assignAll setting arguments parameters) := by
  induction arguments generalizing parameters with
  | nil => exact keeps_pure _
  | cons argument arguments ih =>
      cases parameters with
      | nil => exact keeps_pure _
      | cons parameter parameters =>
          refine (keeps_assign compares argument parameter).bind fun first => ?_
          exact (ih parameters).bind fun rest => keeps_pure _

theorem keeps_convertArguments
    (compares : instruction.comparesTypes = true) (method : MethodRef)
    (arguments : List RemoteValue) :
    Keeps binding id instruction fact (convertArguments setting method arguments) := by
  refine (keeps_orAbort _).bind fun parameters => ?_
  dsimp only
  split
  · exact keeps_fail _
  · exact keeps_assignAll compares arguments _

/-! ## The bound frame -/

theorem keeps_currentReceiver :
    Keeps setting.binding id .pushThis fact (currentReceiver setting) := by
  refine Keeps.reading fun current same => keeps_perform ?_
  rw [same]
  exact .thisObject

/-- The slot that is found is that of the name. -/
theorem keeps_slotOf
    (name : String) :
    Triple (vocabularyRule setting.binding id instruction) (Carried id fact)
      (slotOf setting name)
      fun record slot activation => Carried id fact record activation ∧
        setting.binding.symbols.find? name = some slot := by
  rw [slotOf]
  split
  · next slot found => exact .pure fun _ _ carried => ⟨carried, found⟩
  · exact .fail fun _ _ _ => trivial

theorem keeps_localVariable
    (name : String) :
    Keeps setting.binding id (.pushLocal name) fact (localVariable setting name) := by
  refine (keeps_slotOf name).bind fun slot => Triple.given fun found => ?_
  refine Keeps.reading fun current same => ?_
  rw [same]
  refine Triple.bind (keeps_perform (.frameValues found)) fun values => ?_
  split
  · exact keeps_pure _
  · exact keeps_fail _

theorem keeps_setLocalVariable
    (name : String) (value : RemoteValue) :
    Keeps setting.binding id (.storeLocal name) fact (setLocalVariable setting name value) := by
  refine (keeps_slotOf name).bind fun slot => Triple.given fun found => ?_
  refine (keeps_assign rfl value slot.signature).bind fun stored => ?_
  refine Keeps.reading fun current same => keeps_perform ?_
  rw [same]
  exact .setFrameValue found stored

/-! ## Invocations -/

/-- The target runs code, and the frame is fetched again. -/
theorem Footing.run_code
    (footing : Footing instruction fact) (runsCode : instruction.runsCode = true)
    {operation : Operation} (put : MayPut setting.binding id instruction operation) :
    Leads setting.binding id instruction fact
      (do
        let answer ← perform operation
        revalidate setting
        return answer) := by
  refine Triple.bind (keeps_perform put) fun answer => ?_
  refine Triple.via (fun _ _ activation => fact activation) (revalidate_triple setting ?_)
    fun _ => .pure fun _ _ holds => holds
  intro record activation carried
  exact
    { asks := ⟨_, rfl, .refetch runsCode⟩
      returns := fun info =>
        ⟨fun _ => footing.relocated runsCode info.id carried.1, fun _ _ => trivial⟩
      stops := fun _ => trivial }

theorem Footing.invokeFound
    (footing : Footing instruction fact) (runsCode : instruction.runsCode = true)
    (compares : instruction.comparesTypes = true) (receiver : Option RemoteValue)
    (method : MethodRef) (arguments : List RemoteValue)
    (put : ∀ stored, MayPut setting.binding id instruction
      (.invoke setting.binding.thread receiver method stored)) :
    Leads setting.binding id instruction fact
      (Evaluation.invokeFound setting receiver method arguments) :=
  (keeps_convertArguments compares method arguments).bind fun stored =>
    footing.run_code runsCode (put stored)

theorem Footing.invoke
    {selector : MethodSelector} (footing : Footing (.invoke selector) fact)
    (receiver : RemoteValue) (arguments : List RemoteValue) :
    Leads setting.binding id (.invoke selector) fact
      (Evaluation.invoke setting receiver selector arguments) := by
  cases receiver with
  | null | primitive | void => exact (keeps_fail _).leads
  | object | array =>
      refine Triple.bind (keeps_perform (.instanceMethod selector _)) fun method => ?_
      exact footing.invokeFound rfl rfl _ method arguments fun stored => .invoke ..

theorem Footing.invokeStatic
    {className : String} {selector : MethodSelector}
    (footing : Footing (.invokeStatic className selector) fact) (arguments : List RemoteValue) :
    Leads setting.binding id (.invokeStatic className selector) fact
      (Evaluation.invokeStatic setting className selector arguments) := by
  refine Triple.bind (keeps_perform (.staticMethod className selector)) fun method => ?_
  exact footing.invokeFound rfl rfl none method arguments fun stored => .invokeStatic ..

theorem Footing.construct
    {className : String} {selector : MethodSelector}
    (footing : Footing (.new className selector) fact) (arguments : List RemoteValue) :
    Leads setting.binding id (.new className selector) fact
      (Evaluation.construct setting className selector arguments) := by
  refine Triple.bind (keeps_perform (.constructor className selector)) fun constructor => ?_
  refine (keeps_convertArguments rfl constructor arguments).bind fun stored => ?_
  exact footing.run_code rfl (.newInstance ..)

theorem Footing.complete
    (footing : Footing instruction fact) (runsCode : instruction.runsCode = true)
    (outcome : InvokeOutcome) :
    Triple (vocabularyRule binding id instruction) (fun _ activation => fact activation)
      (Evaluation.complete outcome) fun _ _ activation => fact activation := by
  cases outcome with
  | returned value =>
      exact .modify fun _ activation holds =>
        footing.restacked (activation.stack.push value) holds (fun _ _ => rfl) rfl
  | threw exception => exact .modify fun _ _ holds => footing.raised runsCode exception holds

/-! ## Arrays -/

section Arrays

variable (footing : Footing instruction fact)

include footing

theorem Footing.popArray : Keeps binding id instruction fact Evaluation.popArray := by
  refine footing.pop.bind fun value => ?_
  cases value with
  | array handle => exact keeps_pure handle
  | null | object | primitive | void => exact keeps_fail _

theorem Footing.popInt
    (role : String) : Keeps binding id instruction fact (Evaluation.popInt role) := by
  refine footing.pop.bind fun value => ?_
  cases value with
  | primitive given =>
      dsimp only
      split
      · exact keeps_pure _
      · exact keeps_fail _
  | array | null | object | void => exact keeps_fail _

end Arrays

theorem keeps_checkBounds
    {array : ArrayHandle} (put : MayPut binding id instruction (.arrayLength array))
    (index : Int32) : Keeps binding id instruction fact (checkBounds array index) := by
  refine Triple.bind (keeps_perform put) fun length => ?_
  split
  · exact keeps_fail _
  · exact keeps_pure _

theorem Footing.arrayLoad
    (footing : Footing .arrayLoad fact) :
    Keeps binding id .arrayLoad fact Evaluation.arrayLoad := by
  refine footing.popArray.bind fun array => ?_
  refine (footing.popInt "array index").bind fun index => ?_
  refine (keeps_checkBounds (.lengthToLoad array) index).bind fun _ => ?_
  exact Triple.bind (keeps_perform (.arrayGet array index)) fun element => footing.push element

theorem Footing.arrayStore
    (footing : Footing .arrayStore fact) :
    Keeps binding id .arrayStore fact (Evaluation.arrayStore setting) := by
  refine footing.popArray.bind fun array => ?_
  refine (footing.popInt "array index").bind fun index => ?_
  refine footing.pop.bind fun value => ?_
  refine (keeps_checkBounds (.lengthToStore array) index).bind fun _ => ?_
  refine (keeps_assign rfl value array.element.signature).bind fun stored => ?_
  exact keeps_perform (.arraySet array index stored)

theorem Footing.arrayLength
    (footing : Footing .arrayLength fact) :
    Keeps binding id .arrayLength fact Evaluation.arrayLength := by
  refine footing.popArray.bind fun array => ?_
  exact Triple.bind (keeps_perform (.arrayLength array)) fun length => footing.push (.int length)

theorem Footing.newArray
    {signature : String} (footing : Footing (.newArray signature) fact) :
    Keeps binding id (.newArray signature) fact (Evaluation.newArray signature) := by
  rw [Evaluation.newArray]
  split
  · refine (footing.popInt "array size").bind fun length => ?_
    split
    · exact keeps_fail _
    · exact Triple.bind (keeps_perform (.newArray signature length)) fun array =>
        footing.push array
  · exact keeps_fail _

/-! ## Fields -/

theorem keeps_checkReceiver
    (receiver : RemoteValue) (member : String) :
    Keeps binding id instruction fact (checkReceiver receiver member) := by
  cases receiver with
  | object | array => exact keeps_pure ()
  | null | primitive | void => exact keeps_fail _

theorem Footing.readField
    {name : String} (footing : Footing (.fieldGet name) fact) (receiver : RemoteValue) :
    Keeps binding id (.fieldGet name) fact (Evaluation.readField receiver name) := by
  refine Triple.bind (keeps_perform (.fieldToGet name receiver)) fun field => ?_
  exact Triple.bind (keeps_perform (.getField name receiver field)) fun value =>
    footing.push value

theorem Footing.fieldGet
    {name : String} (footing : Footing (.fieldGet name) fact) :
    Keeps binding id (.fieldGet name) fact (Evaluation.fieldGet name) := by
  refine footing.pop.bind fun receiver => ?_
  refine (keeps_checkReceiver receiver name).bind fun _ => ?_
  cases receiver with
  | array handle =>
      show Triple _ _ (if name = "length" then _ else _) _
      split
      · exact Triple.bind (keeps_perform (.lengthAsField name handle)) fun length =>
          footing.push (.int length)
      · exact footing.readField _
  | object | null | primitive | void => exact footing.readField _

theorem Footing.fieldSet
    {name : String} (footing : Footing (.fieldSet name) fact) :
    Keeps binding id (.fieldSet name) fact (Evaluation.fieldSet setting name) := by
  refine footing.pop.bind fun value => ?_
  refine footing.pop.bind fun receiver => ?_
  refine (keeps_checkReceiver receiver name).bind fun _ => ?_
  refine Triple.bind (keeps_perform (.fieldToSet name receiver)) fun field => ?_
  refine (keeps_assign rfl value field.signature).bind fun stored => ?_
  exact keeps_perform (.setField name receiver field stored)

theorem Footing.staticFieldGet
    {className name : String} (footing : Footing (.staticFieldGet className name) fact) :
    Keeps binding id (.staticFieldGet className name) fact
      (Evaluation.staticFieldGet className name) := by
  refine Triple.bind (keeps_perform (.staticFieldToGet className name)) fun field => ?_
  exact Triple.bind (keeps_perform (.getStaticField className name field)) fun value =>
    footing.push value

theorem Footing.staticFieldSet
    {className name : String} (footing : Footing (.staticFieldSet className name) fact) :
    Keeps binding id (.staticFieldSet className name) fact
      (Evaluation.staticFieldSet setting className name) := by
  refine footing.pop.bind fun value => ?_
  refine Triple.bind (keeps_perform (.staticFieldToSet className name)) fun field => ?_
  refine (keeps_assign rfl value field.signature).bind fun stored => ?_
  exact keeps_perform (.setStaticField className name field stored)

/-! ## Methods -/

theorem Footing.invokeMethod
    {selector : MethodSelector} (footing : Footing (.invoke selector) fact) :
    Leads setting.binding id (.invoke selector) fact
      (Evaluation.invokeMethod setting selector) := by
  refine Triple.bind (footing.popMany selector.arity) fun arguments => ?_
  refine footing.pop.bind fun receiver => ?_
  exact (footing.invoke receiver arguments).bind fun outcome => footing.complete rfl outcome

theorem Footing.invokeStaticMethod
    {className : String} {selector : MethodSelector}
    (footing : Footing (.invokeStatic className selector) fact) :
    Leads setting.binding id (.invokeStatic className selector) fact
      (Evaluation.invokeStaticMethod setting className selector) := by
  refine Triple.bind (footing.popMany selector.arity) fun arguments => ?_
  exact (footing.invokeStatic arguments).bind fun outcome => footing.complete rfl outcome

theorem Footing.newObject
    {className : String} {selector : MethodSelector}
    (footing : Footing (.new className selector) fact) :
    Leads setting.binding id (.new className selector) fact
      (Evaluation.newObject setting className selector) := by
  refine Triple.bind (footing.popMany selector.arity) fun arguments => ?_
  exact (footing.construct arguments).bind fun outcome => footing.complete rfl outcome

/-! ## Operators -/

section Operators

variable (footing : Footing instruction fact)

include footing

theorem Footing.binary
    (op : BinaryOp) : Keeps binding id instruction fact (Evaluation.binary op) := by
  refine footing.pop.bind fun right => ?_
  refine footing.pop.bind fun left => ?_
  exact (keeps_ofExcept _).bind fun result => footing.push result

theorem Footing.unary
    (op : UnaryOp) : Keeps binding id instruction fact (Evaluation.unary op) := by
  refine footing.pop.bind fun value => ?_
  cases value with
  | primitive operand => exact (keeps_ofExcept _).bind fun result => footing.push _
  | array | object | null | void => exact keeps_fail _

omit footing in
theorem keeps_castReference
    (compares : instruction.comparesTypes = true) (value : RemoteValue) (signature : String) :
    Keeps binding id instruction fact (castReference setting value signature) := by
  cases value with
  | null => exact keeps_pure _
  | primitive | void => exact keeps_fail _
  | object | array =>
      refine (keeps_instanceOf compares _ signature).bind fun answer => ?_
      cases answer with
      | true => exact keeps_pure _
      | false =>
          exact Triple.bind (keeps_perform (.typeSignature compares _)) fun runtime => keeps_fail _

theorem Footing.cast
    (compares : instruction.comparesTypes = true) (signature : String) :
    Keeps binding id instruction fact (Evaluation.cast setting signature) := by
  refine footing.pop.bind fun value => ?_
  cases PrimitiveKind.ofSignature? signature with
  | some kind =>
      cases value with
      | primitive given => exact (keeps_ofExcept _).bind fun result => footing.push _
      | array | object | null | void => exact keeps_fail _
  | none =>
      exact (keeps_castReference compares value signature).bind fun result => footing.push result

theorem Footing.testInstance
    (compares : instruction.comparesTypes = true) (signature : String) :
    Keeps binding id instruction fact (Evaluation.testInstance setting signature) := by
  refine footing.pop.bind fun value => ?_
  cases value with
  | null => exact footing.push (.boolean false)
  | primitive | void => exact keeps_fail _
  | object | array =>
      exact (keeps_instanceOf compares _ signature).bind fun answer =>
        footing.push (.boolean answer)

theorem Footing.popCondition : Keeps binding id instruction fact Evaluation.popCondition := by
  refine footing.pop.bind fun value => ?_
  cases value with
  | primitive given =>
      cases given with
      | boolean value => exact keeps_pure value
      | byte | char | short | int | long | float | double => exact keeps_fail _
  | array | object | null | void => exact keeps_fail _

end Operators

/-! ## Locals -/

theorem Footing.pushLocal
    {name : String} (footing : Footing (.pushLocal name) fact) :
    Keeps setting.binding id (.pushLocal name) fact (Evaluation.pushLocal setting name) := by
  refine keeps_get.bind fun activation => ?_
  split
  · exact footing.push _
  · exact (keeps_localVariable name).bind fun value => footing.push value

theorem Footing.storeLocal
    {name : String} (footing : Footing (.storeLocal name) fact) :
    Keeps setting.binding id (.storeLocal name) fact (Evaluation.storeLocal setting name) := by
  refine footing.pop.bind fun value => ?_
  refine Triple.bind (footing.assignLocal rfl value) fun declared => ?_
  cases declared with
  | true => exact keeps_pure ()
  | false => exact keeps_setLocalVariable name value

/-! ## All instructions -/

/-- What is known of a completed instruction: where it goes, and the fact that it kept. -/
def Goes (instruction : Instruction) (fact : Activation → Prop) (_record : Record) (flow : Flow)
    (activation : Activation) : Prop :=
  flow ∈ instruction.flows ∧ fact activation

theorem Leads.thenNext
    {evaluation : Evaluation Unit} (onward : .next ∈ instruction.flows)
    (leads : Leads binding id instruction fact evaluation) :
    Triple (vocabularyRule binding id instruction) (Carried id fact)
      (do evaluation; return Flow.next) (Goes instruction fact) :=
  leads.bind fun _ => .pure fun _ _ holds => ⟨onward, holds⟩

theorem Keeps.thenNext
    {evaluation : Evaluation Unit} (onward : .next ∈ instruction.flows)
    (keeps : Keeps binding id instruction fact evaluation) :
    Triple (vocabularyRule binding id instruction) (Carried id fact)
      (do evaluation; return Flow.next) (Goes instruction fact) :=
  keeps.leads.thenNext onward

/-- A completed choice goes where the instruction may. -/
theorem goes_pure
    {flow : Flow} (onward : flow ∈ instruction.flows) :
    Triple (vocabularyRule binding id instruction) (Carried id fact) (pure flow)
      (Goes instruction fact) :=
  .pure fun _ _ carried => ⟨onward, carried.1⟩

/-- An instruction puts the operations of its vocabulary and keeps a fact that has its footing. -/
theorem Footing.step
    (footing : Footing instruction fact) :
    Triple (vocabularyRule setting.binding id instruction) (Carried id fact)
      (Evaluation.step setting instruction) (Goes instruction fact) := by
  have next : ∀ {other : Instruction}, other.flows = [.next] → Flow.next ∈ other.flows :=
    fun only => only ▸ List.mem_singleton_self _
  cases instruction with
  | pushLiteral value => exact (footing.push value).thenNext (next rfl)
  | pushString text =>
      refine Triple.bind (keeps_perform (.createString text)) fun string => ?_
      exact (footing.push string).thenNext (next rfl)
  | pushThis =>
      refine keeps_currentReceiver.bind fun receiver => ?_
      exact (footing.push receiver).thenNext (next rfl)
  | pushLocal name => exact footing.pushLocal.thenNext (next rfl)
  | storeLocal name => exact footing.storeLocal.thenNext (next rfl)
  | declareLocal name =>
      refine footing.pop.bind fun initial => ?_
      exact (footing.declareLocal rfl initial).thenNext (next rfl)
  | loadTemporary slot =>
      refine keeps_get.bind fun activation => ?_
      refine (keeps_ofExcept _).bind fun value => ?_
      exact (footing.push value).thenNext (next rfl)
  | storeTemporary slot =>
      refine footing.pop.bind fun value => ?_
      exact (footing.setTemporary slot value).thenNext (next rfl)
  | pop => exact footing.pop.bind fun value => goes_pure (next rfl)
  | dup => exact footing.dup.thenNext (next rfl)
  | arrayLoad => exact footing.arrayLoad.thenNext (next rfl)
  | arrayStore => exact footing.arrayStore.thenNext (next rfl)
  | arrayLength => exact footing.arrayLength.thenNext (next rfl)
  | newArray signature => exact footing.newArray.thenNext (next rfl)
  | fieldGet name => exact footing.fieldGet.thenNext (next rfl)
  | fieldSet name => exact footing.fieldSet.thenNext (next rfl)
  | staticFieldGet className name => exact footing.staticFieldGet.thenNext (next rfl)
  | staticFieldSet className name => exact footing.staticFieldSet.thenNext (next rfl)
  | invoke method => exact footing.invokeMethod.thenNext (next rfl)
  | invokeStatic className method => exact footing.invokeStaticMethod.thenNext (next rfl)
  | new className constructor => exact footing.newObject.thenNext (next rfl)
  | cast signature => exact (footing.cast rfl signature).thenNext (next rfl)
  | instanceOf signature => exact (footing.testInstance rfl signature).thenNext (next rfl)
  | binary op => exact (footing.binary op).thenNext (next rfl)
  | unary op => exact (footing.unary op).thenNext (next rfl)
  | jump target => exact goes_pure (List.mem_singleton_self _)
  | jumpIfTrue target =>
      refine footing.popCondition.bind fun condition => ?_
      cases condition with
      | true => exact goes_pure (by simp [Instruction.flows])
      | false => exact goes_pure (by simp [Instruction.flows])
  | jumpIfFalse target =>
      refine footing.popCondition.bind fun condition => ?_
      cases condition with
      | true => exact goes_pure (by simp [Instruction.flows])
      | false => exact goes_pure (by simp [Instruction.flows])

variable {activation after : Activation} {record : Record}

/-- Every instruction has a footing for what is always true. -/
theorem footing_true (instruction : Instruction) : Footing instruction fun _ => True where
  restacked _ _ _ _ := trivial
  relocated _ _ _ _ := trivial
  raised _ _ _ _ := trivial

/-- No exception comes up where no code is run. -/
theorem footing_calm
    (codeless : instruction.runsCode = false) :
    Footing instruction fun activation => activation.stack.exception = none where
  restacked _ calm _ same := same.trans calm
  relocated runsCode := nomatch codeless.symm.trans runsCode
  raised runsCode := nomatch codeless.symm.trans runsCode

/-- The binding of a name has a footing in every instruction that does not bind it. -/
theorem footing_local
    {name : String} (free : instruction.binds? ≠ some name) (bound : Option RemoteValue) :
    Footing instruction fun activation => activation.stack.local? name = bound where
  restacked _ known same _ := (same name free).trans known
  relocated _ _ _ known := known
  raised _ _ _ known := known

/-- What an instruction asks is in its vocabulary. -/
theorem mayPut_of_asks
    {asked : Inquiry} (asks : ((step setting instruction).start activation).Asks record asked) :
    ∃ operation, asked = .operation operation ∧
      MayPut setting.binding activation.frameId instruction operation :=
  ((Dialogue.meets_iff _ _).1
    ((footing_true instruction).step [] activation ⟨trivial, rfl⟩)).1 record asked asks

theorem Footing.of_ends
    (footing : Footing instruction fact) (holds : fact activation) {flow : Flow}
    (ends : ((Evaluation.step setting instruction).start activation).Ends record
      (.ok flow, after)) :
    flow ∈ instruction.flows ∧ fact after :=
  ((Dialogue.meets_iff _ _).1 (footing.step [] activation ⟨holds, rfl⟩)).2 record _ ends

end Evaluation

end FrameEval
