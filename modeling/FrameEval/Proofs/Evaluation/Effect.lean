import FrameEval.Proofs.Evaluation.Regime

/-!
# Effects of instructions

How many operands each instruction takes and leaves and where the program may go on, and the
proof that this is what executing it does: in every steady regime the invariant moves from the
one height to the other.  Each operation of the stack has its effect first, then each group of
instructions, and `step` collects them.
-/

namespace FrameEval

namespace Instruction

/-- The number of operands that an instruction takes. -/
def pops : Instruction → Nat
  | pushLiteral _ => 0
  | pushString _ => 0
  | pushThis => 0
  | pushLocal _ => 0
  | storeLocal _ => 1
  | declareLocal _ => 1
  | loadTemporary _ => 0
  | storeTemporary _ => 1
  | pop => 1
  | dup => 1
  | arrayLoad => 2
  | arrayStore => 3
  | arrayLength => 1
  | newArray _ => 1
  | fieldGet _ => 1
  | fieldSet _ => 2
  | staticFieldGet _ _ => 0
  | staticFieldSet _ _ => 1
  | invoke method => method.arity + 1
  | invokeStatic _ method => method.arity
  | new _ constructor => constructor.arity
  | cast _ => 1
  | instanceOf _ => 1
  | binary _ => 2
  | unary _ => 1
  | jump _ => 0
  | jumpIfTrue _ => 1
  | jumpIfFalse _ => 1

/-- The number of operands that an instruction leaves in place of those it took. -/
def pushes : Instruction → Nat
  | storeLocal _ => 0
  | declareLocal _ => 0
  | storeTemporary _ => 0
  | pop => 0
  | dup => 2
  | arrayStore => 0
  | fieldSet _ => 0
  | staticFieldSet _ _ => 0
  | jump _ => 0
  | jumpIfTrue _ => 0
  | jumpIfFalse _ => 0
  | _ => 1

/-- The ways in which a program may go on after an instruction. -/
def flows : Instruction → List Flow
  | jump target => [.jump target]
  | jumpIfTrue target => [.next, .jump target]
  | jumpIfFalse target => [.next, .jump target]
  | _ => [.next]

end Instruction

/-- The counter to which a flow leads. -/
def Flow.successor (counter : Nat) : Flow → Nat
  | next => counter + 1
  | jump target => target

/-- The counters to which an instruction may lead. -/
def Instruction.successors (counter : Nat) (instruction : Instruction) : List Nat :=
  instruction.flows.map (Flow.successor counter)

namespace OperandStack

/-- An action takes and leaves so many operands; only a lack of them makes it underflow. -/
structure HasEffect {α : Type} (action : Action α) (taken left : Nat) : Prop where
  returns : ∀ {stack value after}, action stack = (.ok value, after) →
    after.exception = stack.exception ∧ after.size + taken = stack.size + left
  fails : ∀ {stack error after}, action stack = (.error error, after) →
    ¬ error.IsMisstep ∨ error = .stackUnderflow ∧ stack.size < taken

theorem hasEffect_pop : HasEffect pop 1 0 where
  returns := by
    rintro ⟨_ | ⟨top, below⟩, temporaries, locals, exception⟩ value after popped <;>
      simp only [pop, Prod.mk.injEq, Except.ok.injEq, reduceCtorEq, false_and] at popped
    rcases popped with ⟨rfl, rfl⟩
    exact ⟨rfl, rfl⟩
  fails := by
    rintro ⟨_ | ⟨top, below⟩, temporaries, locals, exception⟩ error after popped <;>
      simp only [pop, Prod.mk.injEq, Except.error.injEq, reduceCtorEq, false_and] at popped
    exact .inr ⟨popped.1.symm, Nat.one_pos⟩

theorem hasEffect_dup : HasEffect dup 1 2 where
  returns := by
    rintro ⟨_ | ⟨top, below⟩, temporaries, locals, exception⟩ value after popped <;>
      simp only [dup, Prod.mk.injEq, reduceCtorEq, false_and, true_and] at popped
    subst popped
    exact ⟨rfl, rfl⟩
  fails := by
    rintro ⟨_ | ⟨top, below⟩, temporaries, locals, exception⟩ error after popped <;>
      simp only [dup, Prod.mk.injEq, Except.error.injEq, reduceCtorEq, false_and] at popped
    exact .inr ⟨popped.1.symm, Nat.one_pos⟩

theorem hasEffect_popMany
    (count : Nat) : HasEffect (popMany count) count 0 where
  returns := by
    intro stack value after popped
    rw [popMany] at popped
    split at popped
    · cases popped
    · next enough =>
      cases popped
      refine ⟨rfl, ?_⟩
      simp only [size, List.length_drop] at enough ⊢
      omega
  fails := by
    intro stack error after popped
    rw [popMany] at popped
    split at popped
    · next short =>
      cases popped
      exact .inr ⟨rfl, short⟩
    · cases popped

theorem hasEffect_setTemporary
    (slot : Nat) (value : RemoteValue) : HasEffect (setTemporary slot value) 0 0 where
  returns := by
    intro stack result after written
    rw [setTemporary] at written
    split at written
    · cases written
      exact ⟨rfl, rfl⟩
    · cases written
  fails := by
    intro stack error after written
    rw [setTemporary] at written
    split at written
    · cases written
    · cases written
      exact .inl (EvalError.not_isMisstep_slotOutOfRange slot)

theorem hasEffect_declareLocal
    (name : String) (initial : RemoteValue) : HasEffect (declareLocal name initial) 0 0 where
  returns := by
    intro stack result after declared
    rw [declareLocal] at declared
    split at declared
    · cases declared
    · cases declared
      exact ⟨rfl, rfl⟩
  fails := by
    intro stack error after declared
    rw [declareLocal] at declared
    split at declared
    · cases declared
      refine .inl (EvalError.not_isMisstep_malformedSequence 'l' ?_ (by decide))
      iterate 2 refine EvalError.head?_append _ ?_
      rfl
    · cases declared

theorem hasEffect_assignLocal
    (name : String) (value : RemoteValue) : HasEffect (assignLocal name value) 0 0 where
  returns := by
    intro stack result after assigned
    rw [assignLocal] at assigned
    split at assigned
    · cases assigned
      exact ⟨rfl, rfl⟩
    · split at assigned
      · cases assigned
        exact ⟨rfl, rfl⟩
      · cases assigned
  fails := by
    intro stack error after assigned
    rw [assignLocal] at assigned
    split at assigned
    · cases assigned
    · split at assigned
      · cases assigned
      · next failed =>
        cases assigned
        exact .inl ((semantic_converted name _ value).blameless.not_isMisstep failed)

end OperandStack

namespace Evaluation

open Dialogue Wire

/-- What holds after an instruction: an exception that it threw is still pending. -/
def Regime.leaves (regime : Regime) (height : Nat) (record : Record)
    (activation : Activation) : Prop :=
  regime.holds height record activation ∨
    ∃ exception, activation.stack.exception = some exception ∧
      regime.thrown exception record

/-- An evaluation may throw, and otherwise the number of operands goes from one to another. -/
def Regime.Acts {α : Type} (regime : Regime) (before : Nat) (evaluation : Evaluation α)
    (after : Nat) : Prop :=
  Triple regime.toRule (regime.holds before) evaluation
    fun record _ activation => regime.leaves after record activation

theorem Regime.Moves.acts
    {α : Type} {regime : Regime} {before after : Nat} {evaluation : Evaluation α}
    (moves : regime.Moves before evaluation after) :
    regime.Acts before evaluation after :=
  Triple.weaken moves (fun _ _ holds => holds) fun _ _ _ holds => .inl holds

namespace Regime.Steady

variable {α : Type} {setting : Setting} {regime : Regime}

/-! ## The operand stack -/

theorem onStack
    (steady : regime.Steady setting) {action : OperandStack.Action α} {taken left : Nat}
    (effect : OperandStack.HasEffect action taken left) (height : Nat) :
    regime.Moves (height + taken) (Evaluation.onStack action) (height + left) := by
  refine Triple.onStack (fun record activation value stack holds acted => ?_)
    fun record activation error stack holds acted => ?_
  · rcases effect.returns acted with ⟨same, size⟩
    refine steady.restack stack holds (same.trans (steady.calm holds)) ?_
    omega
  · rcases effect.fails acted with honest | ⟨rfl, short⟩
    · exact steady.fails holds honest
    · exact steady.underflows holds (by omega)

theorem push
    (steady : regime.Steady setting) (height : Nat) (value : RemoteValue) :
    regime.Moves height (Evaluation.push value) (height + 1) := by
  refine Triple.modify fun record activation holds => ?_
  refine steady.restack (activation.stack.push value) holds (steady.calm holds) ?_
  simp only [OperandStack.push, OperandStack.size, List.length_cons]
  omega

theorem pop
    (steady : regime.Steady setting) (height : Nat) :
    regime.Moves (height + 1) Evaluation.pop height :=
  steady.onStack OperandStack.hasEffect_pop height

/-! ## Arrays -/

theorem popArray
    (steady : regime.Steady setting) (height : Nat) :
    regime.Moves (height + 1) Evaluation.popArray height := by
  refine (steady.pop height).bind fun value => ?_
  cases value with
  | array handle => exact .pure fun _ _ holds => holds
  | null | object | primitive | void => exact steady.fail id

theorem popInt
    (steady : regime.Steady setting) (height : Nat) (role : String) :
    regime.Moves (height + 1) (Evaluation.popInt role) height := by
  refine (steady.pop height).bind fun value => ?_
  cases value with
  | primitive given =>
      dsimp only
      split
      · exact .pure fun _ _ holds => holds
      · exact steady.fail id
  | array | null | object | void => exact steady.fail id

theorem checkBounds
    (steady : regime.Steady setting) (height : Nat) (array : ArrayHandle) (index : Int32) :
    regime.Moves height (Evaluation.checkBounds array index) height := by
  refine (steady.perform rfl height).bind fun length => ?_
  split
  · exact steady.fail id
  · exact .pure fun _ _ holds => holds

theorem arrayLoad
    (steady : regime.Steady setting) (height : Nat) :
    regime.Moves (height + 2) Evaluation.arrayLoad (height + 1) := by
  refine (steady.popArray (height + 1)).bind fun array => ?_
  refine (steady.popInt height "array index").bind fun index => ?_
  refine (steady.checkBounds height array index).bind fun _ => ?_
  refine (steady.perform rfl height).bind fun element => ?_
  exact steady.push height element

theorem arrayStore
    (steady : regime.Steady setting) (height : Nat) :
    regime.Moves (height + 3) (Evaluation.arrayStore setting) height := by
  refine (steady.popArray (height + 2)).bind fun array => ?_
  refine (steady.popInt (height + 1) "array index").bind fun index => ?_
  refine (steady.pop height).bind fun value => ?_
  refine (steady.checkBounds height array index).bind fun _ => ?_
  refine (steady.assign height value array.element.signature).bind fun stored => ?_
  refine .perform fun record activation known => ?_
  exact steady.performs known.1
    ⟨⟨_, rfl, .cons known.2 .nil⟩, trivial, by simp [Operation.frameAccess?], rfl⟩ rfl

theorem arrayLength
    (steady : regime.Steady setting) (height : Nat) :
    regime.Moves (height + 1) Evaluation.arrayLength (height + 1) := by
  refine (steady.popArray height).bind fun array => ?_
  refine (steady.perform rfl height).bind fun length => ?_
  exact steady.push height (.int length)

theorem newArray
    (steady : regime.Steady setting) (height : Nat) (signature : String) :
    regime.Moves (height + 1) (Evaluation.newArray signature) (height + 1) := by
  rw [Evaluation.newArray]
  split
  · refine (steady.popInt height "array size").bind fun length => ?_
    split
    · exact steady.fail id
    · refine (steady.perform rfl height).bind fun array => ?_
      exact steady.push height array
  · refine steady.fail (EvalError.not_isMisstep_malformedSequence 'n' ?_ (by decide))
    exact EvalError.head?_append _ rfl

/-! ## Fields -/

theorem checkReceiver
    (steady : regime.Steady setting) (height : Nat) (receiver : RemoteValue) (member : String) :
    regime.Moves height (Evaluation.checkReceiver receiver member) height := by
  cases receiver with
  | object | array => exact .pure fun _ _ holds => holds
  | null | primitive | void => exact steady.fail id

theorem readField
    (steady : regime.Steady setting) (height : Nat) (receiver : RemoteValue) (name : String) :
    regime.Moves height (Evaluation.readField receiver name) (height + 1) := by
  refine (steady.perform rfl height).bind fun field => ?_
  refine (steady.perform rfl height).bind fun value => ?_
  exact steady.push height value

theorem fieldGet
    (steady : regime.Steady setting) (height : Nat) (name : String) :
    regime.Moves (height + 1) (Evaluation.fieldGet name) (height + 1) := by
  refine (steady.pop height).bind fun receiver => ?_
  refine (steady.checkReceiver height receiver name).bind fun _ => ?_
  cases receiver with
  | array handle =>
      show Triple _ _ (if name = "length" then _ else _) _
      split
      · refine (steady.perform rfl height).bind fun length => ?_
        exact steady.push height (.int length)
      · exact steady.readField height _ name
  | object | null | primitive | void => exact steady.readField height _ name

theorem fieldSet
    (steady : regime.Steady setting) (height : Nat) (name : String) :
    regime.Moves (height + 2) (Evaluation.fieldSet setting name) height := by
  refine (steady.pop (height + 1)).bind fun value => ?_
  refine (steady.pop height).bind fun receiver => ?_
  refine (steady.checkReceiver height receiver name).bind fun _ => ?_
  refine (steady.perform_found rfl height).bind fun field => ?_
  refine ((steady.assign height value field.signature).frame (lasting_mem _)).bind
    fun stored => ?_
  refine .perform fun record activation known => ?_
  exact steady.performs known.1.1
    ⟨⟨_, rfl, .cons known.1.2 .nil⟩, ⟨name, known.2⟩, by simp [Operation.frameAccess?], rfl⟩ rfl

theorem staticFieldGet
    (steady : regime.Steady setting) (height : Nat) (className name : String) :
    regime.Moves height (Evaluation.staticFieldGet className name) (height + 1) := by
  refine (steady.perform rfl height).bind fun field => ?_
  refine (steady.perform rfl height).bind fun value => ?_
  exact steady.push height value

theorem staticFieldSet
    (steady : regime.Steady setting) (height : Nat) (className name : String) :
    regime.Moves (height + 1) (Evaluation.staticFieldSet setting className name) height := by
  refine (steady.pop height).bind fun value => ?_
  refine (steady.perform_found rfl height).bind fun field => ?_
  refine ((steady.assign height value field.signature).frame (lasting_mem _)).bind
    fun stored => ?_
  refine .perform fun record activation known => ?_
  exact steady.performs known.1.1
    ⟨⟨_, rfl, .cons known.1.2 .nil⟩, ⟨className, name, known.2⟩,
      by simp [Operation.frameAccess?], rfl⟩ rfl

/-! ## Methods -/

theorem complete
    (steady : regime.Steady setting) (height : Nat) (outcome : InvokeOutcome) :
    Triple regime.toRule
      (fun record activation => regime.settles height outcome record activation)
      (Evaluation.complete outcome)
      (fun record _ activation => regime.leaves (height + 1) record activation) := by
  cases outcome with
  | returned value => exact (steady.push height value).acts
  | threw exception =>
      exact .modify fun record activation thrown => .inr ⟨exception, rfl, thrown⟩

theorem invokeMethod
    (steady : regime.Steady setting) (height : Nat) (selector : MethodSelector) :
    regime.Acts (height + (selector.arity + 1)) (Evaluation.invokeMethod setting selector)
      (height + 1) := by
  have popped := steady.onStack (OperandStack.hasEffect_popMany selector.arity) (height + 1)
  rw [show height + 1 + selector.arity = height + (selector.arity + 1) by omega] at popped
  refine Triple.bind popped fun arguments => ?_
  refine (steady.pop height).bind fun receiver => ?_
  exact (steady.invoke height receiver selector arguments).bind fun outcome =>
    steady.complete height outcome

theorem invokeStaticMethod
    (steady : regime.Steady setting) (height : Nat) (className : String)
    (selector : MethodSelector) :
    regime.Acts (height + selector.arity)
      (Evaluation.invokeStaticMethod setting className selector) (height + 1) := by
  refine Triple.bind (steady.onStack (OperandStack.hasEffect_popMany _) height)
    fun arguments => ?_
  exact (steady.invokeStatic height className selector arguments).bind fun outcome =>
    steady.complete height outcome

theorem newObject
    (steady : regime.Steady setting) (height : Nat) (className : String)
    (selector : MethodSelector) :
    regime.Acts (height + selector.arity)
      (Evaluation.newObject setting className selector) (height + 1) := by
  refine Triple.bind (steady.onStack (OperandStack.hasEffect_popMany _) height)
    fun arguments => ?_
  exact (steady.construct height className selector arguments).bind fun outcome =>
    steady.complete height outcome

/-! ## Operators -/

theorem binary
    (steady : regime.Steady setting) (height : Nat) (op : BinaryOp) :
    regime.Moves (height + 2) (Evaluation.binary op) (height + 1) := by
  refine (steady.pop (height + 1)).bind fun right => ?_
  refine (steady.pop height).bind fun left => ?_
  have blameless := (semantic_applyBinary op left right).blameless
  refine (steady.ofExcept blameless height).bind fun result => ?_
  exact steady.push height result

theorem unary
    (steady : regime.Steady setting) (height : Nat) (op : UnaryOp) :
    regime.Moves (height + 1) (Evaluation.unary op) (height + 1) := by
  refine (steady.pop height).bind fun value => ?_
  cases value with
  | primitive operand =>
      refine (steady.ofExcept (op.semantic_apply operand).blameless height).bind fun result => ?_
      exact steady.push height (.primitive result)
  | array | object | null | void => exact steady.fail id

theorem castReference
    (steady : regime.Steady setting) (height : Nat) (value : RemoteValue) (signature : String) :
    regime.Moves height (Evaluation.castReference setting value signature) height := by
  cases value with
  | null => exact .pure fun _ _ holds => holds
  | primitive | void => exact steady.fail id
  | object | array =>
      refine Triple.via (fun record _ activation =>
          regime.holds height record activation)
        ((steady.instanceOf height _ signature).weaken (fun _ _ holds => holds)
          fun _ _ _ known => known.1) fun answer => ?_
      cases answer with
      | true => exact .pure fun _ _ holds => holds
      | false =>
          refine (steady.perform rfl height).bind fun runtime => ?_
          exact steady.fail id

theorem cast
    (steady : regime.Steady setting) (height : Nat) (signature : String) :
    regime.Moves (height + 1) (Evaluation.cast setting signature) (height + 1) := by
  refine (steady.pop height).bind fun value => ?_
  cases PrimitiveKind.ofSignature? signature with
  | some kind =>
      cases value with
      | primitive given =>
          refine (steady.ofExcept (given.semantic_cast kind).blameless height).bind fun result => ?_
          exact steady.push height (.primitive result)
      | array | object | null | void => exact steady.fail id
  | none =>
      refine (steady.castReference height value signature).bind fun result => ?_
      exact steady.push height result

theorem testInstance
    (steady : regime.Steady setting) (height : Nat) (signature : String) :
    regime.Moves (height + 1) (Evaluation.testInstance setting signature) (height + 1) := by
  refine (steady.pop height).bind fun value => ?_
  cases value with
  | null => exact steady.push height (.boolean false)
  | primitive | void => exact steady.fail id
  | object | array =>
      refine (steady.instanceOf height _ signature).bind fun answer => ?_
      exact Triple.strengthenPre (steady.push height (.boolean answer)) fun _ _ known => known.1

theorem popCondition
    (steady : regime.Steady setting) (height : Nat) :
    regime.Moves (height + 1) Evaluation.popCondition height := by
  refine (steady.pop height).bind fun value => ?_
  cases value with
  | primitive given =>
      cases given with
      | boolean value => exact .pure fun _ _ holds => holds
      | byte | char | short | int | long | float | double => exact steady.fail id
  | array | object | null | void => exact steady.fail id

/-! ## Locals -/

theorem get
    (_steady : regime.Steady setting) (height : Nat) :
    regime.Moves height MonadState.get height :=
  .get fun _ _ holds => holds

theorem pushLocal
    (steady : regime.Steady setting) (height : Nat) (name : String) :
    regime.Moves height (Evaluation.pushLocal setting name) (height + 1) := by
  refine (steady.get height).bind fun activation => ?_
  split
  · exact steady.push height _
  · refine (steady.localVariable height name).bind fun value => ?_
    exact steady.push height value

theorem storeLocal
    (steady : regime.Steady setting) (height : Nat) (name : String) :
    regime.Moves (height + 1) (Evaluation.storeLocal setting name) height := by
  refine (steady.pop height).bind fun value => ?_
  refine Triple.bind (steady.onStack (OperandStack.hasEffect_assignLocal name value) height)
    fun declared => ?_
  cases declared with
  | true => exact .pure fun _ _ holds => holds
  | false => exact steady.setLocalVariable height name value

/-! ## All instructions -/

theorem thenNext
    {before after : Nat} {evaluation : Evaluation Unit}
    (acts : regime.Acts before evaluation after) :
    Triple regime.toRule (regime.holds before) (do evaluation; return Flow.next)
      fun record flow activation =>
        flow ∈ [Flow.next] ∧ regime.leaves after record activation :=
  Triple.bind acts fun _ => .pure fun _ _ left => ⟨List.mem_singleton.2 rfl, left⟩

/-- Executing an instruction takes and leaves as many operands as it should, unless it throws. -/
theorem step
    (steady : regime.Steady setting) (height : Nat) (instruction : Instruction) :
    Triple regime.toRule (regime.holds (height + instruction.pops))
      (Evaluation.step setting instruction)
      fun record flow activation => flow ∈ instruction.flows ∧
        regime.leaves (height + instruction.pushes) record activation := by
  cases instruction with
  | pushLiteral value => exact thenNext (steady.push height value).acts
  | pushString text =>
      refine (steady.perform rfl height).bind fun string => ?_
      exact thenNext (steady.push height string).acts
  | pushThis =>
      refine (steady.currentReceiver height).bind fun receiver => ?_
      exact thenNext (steady.push height receiver).acts
  | pushLocal name => exact thenNext (steady.pushLocal height name).acts
  | storeLocal name => exact thenNext (steady.storeLocal height name).acts
  | declareLocal name =>
      refine (steady.pop height).bind fun initial => ?_
      exact thenNext
        (steady.onStack (OperandStack.hasEffect_declareLocal name initial) height).acts
  | loadTemporary slot =>
      refine (steady.get height).bind fun activation => ?_
      refine Triple.via (fun record _ activation =>
          regime.holds height record activation)
        (.ofExcept (fun _ _ _ _ holds => holds) fun _ failed _ _ holds =>
          steady.fails holds (EvalError.not_isMisstep_temporary failed)) fun value => ?_
      exact thenNext (steady.push height value).acts
  | storeTemporary slot =>
      refine (steady.pop height).bind fun value => ?_
      exact thenNext
        (steady.onStack (OperandStack.hasEffect_setTemporary slot value) height).acts
  | pop =>
      refine (steady.pop height).bind fun value => ?_
      exact .pure fun _ _ holds => ⟨List.mem_singleton.2 rfl, .inl holds⟩
  | dup => exact thenNext (steady.onStack OperandStack.hasEffect_dup height).acts
  | arrayLoad => exact thenNext (steady.arrayLoad height).acts
  | arrayStore => exact thenNext (steady.arrayStore height).acts
  | arrayLength => exact thenNext (steady.arrayLength height).acts
  | newArray signature => exact thenNext (steady.newArray height signature).acts
  | fieldGet name => exact thenNext (steady.fieldGet height name).acts
  | fieldSet name => exact thenNext (steady.fieldSet height name).acts
  | staticFieldGet className name =>
      exact thenNext (steady.staticFieldGet height className name).acts
  | staticFieldSet className name =>
      exact thenNext (steady.staticFieldSet height className name).acts
  | invoke method => exact thenNext (steady.invokeMethod height method)
  | invokeStatic className method =>
      exact thenNext (steady.invokeStaticMethod height className method)
  | new className constructor => exact thenNext (steady.newObject height className constructor)
  | cast signature => exact thenNext (steady.cast height signature).acts
  | instanceOf signature => exact thenNext (steady.testInstance height signature).acts
  | binary op => exact thenNext (steady.binary height op).acts
  | unary op => exact thenNext (steady.unary height op).acts
  | jump target => exact .pure fun _ _ holds => ⟨List.mem_singleton.2 rfl, .inl holds⟩
  | jumpIfTrue target =>
      refine (steady.popCondition height).bind fun condition => ?_
      cases condition with
      | true => exact .pure fun _ _ holds => ⟨by simp [Instruction.flows], .inl holds⟩
      | false => exact .pure fun _ _ holds => ⟨by simp [Instruction.flows], .inl holds⟩
  | jumpIfFalse target =>
      refine (steady.popCondition height).bind fun condition => ?_
      cases condition with
      | true => exact .pure fun _ _ holds => ⟨by simp [Instruction.flows], .inl holds⟩
      | false => exact .pure fun _ _ holds => ⟨by simp [Instruction.flows], .inl holds⟩

end Regime.Steady

end Evaluation

end FrameEval
