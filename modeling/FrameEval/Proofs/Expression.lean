import FrameEval.Proofs.Evaluation.Turn

/-!
# Compiled expressions

An expression over primitive values is compiled to its nodes in post-order.  The compiled program
asks the target for nothing, so it computes the same value against any target, and it stops at the
first node that has no value.

The induction is on the expression.  It speaks of a program that contains the compiled expression
somewhere and of a stack that already holds something, because this is what the operands of a node
meet when they are computed.
-/

namespace FrameEval

open Dialogue Evaluation Wire

/-- An expression over primitive values. -/
inductive Expression where
  | literal (value : Primitive)
  | binary (op : BinaryOp) (left right : Expression)
  | unary (op : UnaryOp) (operand : Expression)
  | cast (kind : PrimitiveKind) (operand : Expression)
  deriving DecidableEq

namespace Expression

/-- The value of an expression, with the failure of the left operand before that of the right. -/
def value : Expression → Except EvalError Primitive
  | literal value => .ok value
  | binary op left right => do op.apply (← left.value) (← right.value)
  | unary op operand => do op.apply (← operand.value)
  | cast kind operand => do (← operand.value).cast kind

/-- The instruction of the node at the root. -/
def instruction : Expression → Instruction
  | literal value => .pushLiteral (.primitive value)
  | binary op _ _ => .binary op
  | unary op _ => .unary op
  | cast kind _ => .cast kind.signature

/-- The nodes, operands before operators. -/
def postOrder : Expression → List Expression
  | literal value => [literal value]
  | binary op left right => left.postOrder ++ (right.postOrder ++ [binary op left right])
  | unary op operand => operand.postOrder ++ [unary op operand]
  | cast kind operand => operand.postOrder ++ [cast kind operand]

/-- The compiled expression. -/
def program (expression : Expression) : Program :=
  expression.postOrder.map instruction

/-- Why an expression has no value. -/
def failure? (expression : Expression) : Option EvalError :=
  match expression.value with
  | .ok _ => none
  | .error error => some error

/-- What an evaluation of an expression returns. -/
def outcome (expression : Expression) : Except Halt RemoteValue :=
  match expression.value with
  | .ok value => .ok (.primitive value)
  | .error error => .error (.failed error)

theorem program_binary (op : BinaryOp) (left right : Expression) :
    (binary op left right).program = left.program ++ (right.program ++ [.binary op]) := by
  simp [program, postOrder, instruction]

theorem program_unary (op : UnaryOp) (operand : Expression) :
    (unary op operand).program = operand.program ++ [.unary op] := by
  simp [program, postOrder, instruction]

theorem program_cast (kind : PrimitiveKind) (operand : Expression) :
    (cast kind operand).program = operand.program ++ [.cast kind.signature] := by
  simp [program, postOrder, instruction]

section Value

variable {op : BinaryOp} {sign : UnaryOp} {kind : PrimitiveKind}
  {left right operand : Expression} {first : Primitive} {error : EvalError}

theorem value_binary_of_left
    (failed : left.value = .error error) :
    (binary op left right).value = .error error := by
  rw [value, failed]
  rfl

theorem value_binary_of_right
    (known : left.value = .ok first) (failed : right.value = .error error) :
    (binary op left right).value = .error error := by
  rw [value, known, failed]
  rfl

theorem value_unary_of_operand
    (failed : operand.value = .error error) :
    (unary sign operand).value = .error error := by
  rw [value, failed]
  rfl

theorem value_cast_of_operand
    (failed : operand.value = .error error) :
    (cast kind operand).value = .error error := by
  rw [value, failed]
  rfl

end Value

/-- The failure of an expression is that of its first node without a value. -/
theorem findSome?_postOrder (expression : Expression) :
    expression.postOrder.findSome? failure? = expression.failure? := by
  induction expression with
  | literal value => rfl
  | binary op left right ihLeft ihRight =>
      rw [postOrder, List.findSome?_append, List.findSome?_append, ihLeft, ihRight,
        List.findSome?_singleton]
      cases known : left.value with
      | error error => simp [failure?, known, value_binary_of_left known]
      | ok first =>
          cases known' : right.value with
          | error error => simp [failure?, known, known', value_binary_of_right known known']
          | ok second => simp [failure?, known, known']
  | unary op operand ih =>
      rw [postOrder, List.findSome?_append, ih, List.findSome?_singleton]
      cases known : operand.value with
      | error error => simp [failure?, known, value_unary_of_operand known]
      | ok first => simp [failure?, known]
  | cast kind operand ih =>
      rw [postOrder, List.findSome?_append, ih, List.findSome?_singleton]
      cases known : operand.value with
      | error error => simp [failure?, known, value_cast_of_operand known]
      | ok first => simp [failure?, known]

end Expression

/-! ## One node -/

namespace Evaluation

/-- How a computation ends that leaves its result on the stack. -/
def computed {α : Type} (returned : α) (activation : Activation) :
    Except EvalError Primitive → Except Halt α × Activation
  | .ok value => (.ok returned, activation.over [.primitive value])
  | .error error => (.error (.failed error), activation)

section Node

variable (setting : Setting) (activation : Activation) (left right operand : Primitive)

theorem start_step_literal :
    (step setting (.pushLiteral (.primitive operand))).start activation =
      .done (computed .next activation (.ok operand)) := rfl

/-- Pushing a result ends as computed. -/
theorem start_push_computed
    {evaluation : Evaluation Unit} {before : Activation} {result : Except EvalError Primitive}
    (pushes : evaluation.start before =
      (do push (.primitive (← ofExcept result)) : Evaluation Unit).start activation) :
    (do evaluation; return Flow.next).start before = .done (computed .next activation result) := by
  rw [start_bind, pushes]
  cases result <;> rfl

theorem start_step_binary (op : BinaryOp) :
    (step setting (.binary op)).start (activation.over [.primitive right, .primitive left]) =
      .done (computed .next activation (op.apply left right)) := by
  apply start_push_computed
  rw [binary, start_bind_of_done (start_pop ..), start_bind_of_done (start_pop ..), applyBinary]
  cases op.apply left right <;> rfl

theorem start_step_unary (op : UnaryOp) :
    (step setting (.unary op)).start (activation.over [.primitive operand]) =
      .done (computed .next activation (op.apply operand)) := by
  apply start_push_computed
  rw [unary, start_bind_of_done (start_pop ..)]
  rfl

theorem ofSignature?_signature (kind : PrimitiveKind) :
    PrimitiveKind.ofSignature? kind.signature = some kind := by
  cases kind <;> rfl

theorem start_step_cast (kind : PrimitiveKind) :
    (step setting (.cast kind.signature)).start (activation.over [.primitive operand]) =
      .done (computed .next activation (operand.cast kind)) := by
  apply start_push_computed
  rw [cast, start_bind_of_done (start_pop ..), ofSignature?_signature]
  rfl

end Node

/-! ## Runs -/

theorem getElem?_of_drop
    {program rest : Program} {counter : Nat} {instruction : Instruction}
    (found : program.drop counter = instruction :: rest) :
    program[counter]? = some instruction := by
  have head := congrArg (fun left : Program => left[0]?) found
  rw [List.getElem?_drop] at head
  exact head

theorem drop_of_append
    {program before rest : Program} {counter : Nat}
    (found : program.drop counter = before ++ rest) :
    program.drop (counter + before.length) = rest := by
  rw [← List.drop_drop, found, List.drop_left]

/-- Within so many turns a run has computed a result.  Without asking for anything it has come to
another counter with a value on top of what the base holds, or it has failed. -/
def Yields
    (setting : Setting) (program : Program) (turns counter : Nat) (activation base : Activation)
    (next : Nat) : Except EvalError Primitive → Prop
  | .ok value =>
      ∀ limit, (runFrom setting program false (turns + limit) counter).start activation =
        (runFrom setting program false limit next).start (base.over [.primitive value])
  | .error error =>
      ∃ between, between.frameId = base.frameId ∧
        ∀ limit, (runFrom setting program false (turns + limit) counter).start activation =
          .done (.error (.failed error), between)

section Run

variable {setting : Setting} {program rest : Program} {counter : Nat}
  {instruction : Instruction} {activation base : Activation}
  {result : Except EvalError Primitive}

theorem start_turn_of_computed
    (length counter : Nat)
    (stepped : (step setting instruction).start activation = .done (computed .next base result))
    (calm : base.stack.exception = none) :
    (turn setting length false counter instruction).start activation =
      .done (computed (counter + 1) base result) := by
  show (step setting instruction >>= fun flow =>
    raiseThrown setting >>= fun _ => ofExcept (advance length counter flow)).start activation = _
  rw [start_bind, stepped]
  cases result with
  | error error => rfl
  | ok value =>
      have calm' : (base.over [.primitive value]).stack.exception = none := calm
      show (raiseThrown setting >>= fun _ => ofExcept (advance length counter .next)).start
        (base.over [.primitive value]) = _
      rw [start_bind, start_raiseThrown_none setting calm']
      rfl

theorem yields_of_step
    (found : program.drop counter = instruction :: rest)
    (stepped : (step setting instruction).start activation = .done (computed .next base result))
    (calm : base.stack.exception = none) :
    Yields setting program 1 counter activation base (counter + 1) result := by
  have turned := start_turn_of_computed program.length counter stepped calm
  have here := getElem?_of_drop found
  cases result with
  | ok value =>
      intro limit
      rw [Nat.add_comm, start_runFrom here, turned]
      rfl
  | error error =>
      refine ⟨base, rfl, ?_⟩
      intro limit
      rw [Nat.add_comm, start_runFrom here, turned]
      rfl

variable {turns more next last : Nat} {ground : Activation}
  {onward : Primitive → Except EvalError Primitive}

theorem Yields.bind
    (first : Yields setting program turns counter activation base next result)
    (same : base.frameId = ground.frameId)
    (second : ∀ value, Yields setting program more next (base.over [.primitive value]) ground last
      (onward value)) :
    Yields setting program (turns + more) counter activation ground last (result >>= onward) := by
  cases result with
  | error error =>
      obtain ⟨between, same', stopped⟩ := first
      refine ⟨between, same'.trans same, ?_⟩
      intro limit
      rw [Nat.add_assoc, stopped]
  | ok value =>
      have later := second value
      show Yields setting program (turns + more) counter activation ground last (onward value)
      cases continued : onward value with
      | ok final =>
          rw [continued] at later
          intro limit
          rw [Nat.add_assoc, first, later]
      | error error =>
          rw [continued] at later
          obtain ⟨between, same', stopped⟩ := later
          refine ⟨between, same', ?_⟩
          intro limit
          rw [Nat.add_assoc, first, stopped]

end Run

end Evaluation

/-! ## Expressions within programs -/

namespace Expression

variable {setting : Setting} {program rest : Program} {counter : Nat} {activation : Activation}

/-- Where an expression is compiled, a run computes its value on top of what there is. -/
theorem yields
    (expression : Expression) (found : program.drop counter = expression.program ++ rest)
    (calm : activation.stack.exception = none) :
    Yields setting program expression.program.length counter activation activation
      (counter + expression.program.length) expression.value := by
  induction expression generalizing rest counter activation with
  | literal constant =>
      exact yields_of_step found (start_step_literal setting activation constant) calm
  | binary op left right ihLeft ihRight =>
      rw [program_binary, List.append_assoc, List.append_assoc] at found
      have length : (binary op left right).program.length =
          left.program.length + (right.program.length + 1) := by
        rw [program_binary, List.length_append, List.length_append]
        rfl
      rw [length, ← Nat.add_assoc counter, ← Nat.add_assoc (counter + _)]
      refine (ihLeft found calm).bind rfl fun first => ?_
      -- The right operand is computed on top of the value of the left one.
      have calm' : (activation.over [.primitive first]).stack.exception = none := calm
      refine (ihRight (drop_of_append found) calm').bind rfl fun second => ?_
      exact yields_of_step (drop_of_append (drop_of_append found))
        (start_step_binary setting activation first second op) calm
  | unary op operand ih =>
      rw [program_unary, List.append_assoc] at found
      rw [program_unary, List.length_append, ← Nat.add_assoc counter]
      refine (ih found calm).bind rfl fun first => ?_
      exact yields_of_step (drop_of_append found) (start_step_unary setting activation first op)
        calm
  | cast kind operand ih =>
      rw [program_cast, List.append_assoc] at found
      rw [program_cast, List.length_append, ← Nat.add_assoc counter]
      refine (ih found calm).bind rfl fun first => ?_
      exact yields_of_step (drop_of_append found) (start_step_cast setting activation first kind)
        calm

/-- A run of a compiled expression returns its value, or its failure. -/
theorem start_runFrom_program
    (expression : Expression) (setting : Setting) (frameId : FrameId) {limit : Nat}
    (enough : expression.program.length ≤ limit) :
    ∃ after, after.frameId = frameId ∧
      (runFrom setting expression.program false limit 0).start ⟨frameId, .empty⟩ =
        .done (expression.outcome, after) := by
  have found : expression.program.drop 0 = expression.program ++ [] := by
    rw [List.append_nil]
    rfl
  have yields : Yields setting expression.program _ 0 ⟨frameId, .empty⟩ _ _ _ :=
    expression.yields found rfl
  obtain ⟨spare, rfl⟩ := Nat.exists_eq_add_of_le enough
  have beyond : expression.program[0 + expression.program.length]? = none :=
    List.getElem?_eq_none (by omega)
  unfold outcome
  cases known : expression.value with
  | error error =>
      rw [known] at yields
      obtain ⟨between, same, stopped⟩ := yields
      exact ⟨between, same, stopped spare⟩
  | ok value =>
      rw [known] at yields
      refine ⟨Activation.over ⟨frameId, .empty⟩ [.primitive value], rfl, ?_⟩
      rw [yields spare, runFrom_beyond beyond]
      rfl

end Expression

/-- In any context a run of a compiled expression asks nothing and returns the value of the
expression or, if some node has none, the failure of the first one in post-order. -/
theorem compiled_expression_is_evaluated
    (context : Context) (mode : RunMode) (expression : Expression)
    (unwatched : mode.watched = false) (enough : expression.program.length ≤ mode.stepLimit) :
    context.run mode expression.program = .done (expression.outcome, context) ∧
      ∀ error, expression.value = .error error ↔
        expression.postOrder.findSome? Expression.failure? = some error := by
  constructor
  · obtain ⟨after, same, ended⟩ := expression.start_runFrom_program
      ⟨context.binding, mode.searchLimit⟩ context.frameId enough
    rw [Context.run, Context.evaluate, unwatched, ended]
    show Dialogue.done (expression.outcome, { context with frameId := after.frameId }) = _
    rw [same]
  · intro error
    rw [expression.findSome?_postOrder, Expression.failure?]
    cases expression.value with
    | ok value => simp
    | error other => simp

/-- `1 / (3 - 3) + !5`, two nodes of which fail on their own. -/
def twoFaults : Expression :=
  .binary .add
    (.binary .div (.literal (.int 1)) (.binary .sub (.literal (.int 3)) (.literal (.int 3))))
    (.unary .not (.literal (.int 5)))

/-- The outermost frame of a thread. -/
def outermost : Context :=
  ⟨⟨1, 0, ⟨1, 2, 3, 4⟩, .empty⟩, 7⟩

theorem first_fault_is_reported :
    twoFaults.program.length ≤ 8 ∧
      outermost.run ⟨false, 8, 1⟩ twoFaults.program =
        .done (.error (.failed .divideByZero), outermost) ∧
      twoFaults.postOrder.findSome? Expression.failure? = some .divideByZero := by
  have enough : twoFaults.program.length ≤ 8 := by decide
  obtain ⟨ended, first⟩ :=
    compiled_expression_is_evaluated outermost ⟨false, 8, 1⟩ twoFaults rfl enough
  have failed : twoFaults.value = .error .divideByZero := rfl
  rw [Expression.outcome, failed] at ended
  exact ⟨enough, ended, (first _).1 failed⟩

end FrameEval
