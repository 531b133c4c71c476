import FrameEval.OperandStack
import FrameEval.Proofs.IntegralCasts

/-!
# Operations on the operand stack

A stack has four kinds of components: the operand values, the temporary slots, the bindings of the
locals, and the exception in flight.  An operation that fails leaves all of them as they were.  One
that succeeds changes a component of its own at most, and in a way that is known; `Outcome` says
for each operation when it fails, what it returns and what it leaves.
-/

namespace FrameEval

/-! ## Assignment to a local -/

namespace RemoteValue

/-- A value may be assigned to a local that holds another one: its kind widens to the kind held,
or both are references. -/
inductive Accepts : RemoteValue → RemoteValue → Prop where
  | widened
      {held given : Primitive} (widens : given.kind.widensTo held.kind = true) :
      Accepts (.primitive held) (.primitive given)
  | reference
      {held given : RemoteValue} (holds : held.isReference = true)
      (gives : given.isReference = true) : Accepts held given

end RemoteValue

theorem PrimitiveKind.widensTo_boolean
    {kind target : PrimitiveKind} (widens : kind.widensTo target = true) :
    kind = .boolean ↔ target = .boolean := by
  cases kind <;> cases target <;> simp_all [widensTo]

namespace OperandStack

variable {name : String} {held given : RemoteValue}

theorem converted_of_widensTo
    {old new : Primitive} (name : String) (widens : new.kind.widensTo old.kind = true) :
    ∃ value, new.cast old.kind = .ok value ∧ value.kind = old.kind ∧
      converted name (.primitive old) (.primitive new) = .ok (.primitive value) := by
  obtain ⟨value, cast, kind⟩ := Primitive.cast_of_alike (PrimitiveKind.widensTo_boolean widens)
  refine ⟨value, cast, kind, ?_⟩
  rw [converted, if_pos widens, cast]
  rfl

theorem converted_of_isReference
    (name : String) (holds : held.isReference = true) (gives : given.isReference = true) :
    converted name held given = .ok given := by
  cases held with
  | primitive | void => cases holds
  | object | array | null => cases given <;> simp_all [converted, RemoteValue.isReference]

/-- What is not accepted is a mismatch of types. -/
theorem converted_of_not_accepts
    (name : String) (refused : ¬ held.Accepts given) :
    ∃ detail, converted name held given = .error (.typeMismatch detail) := by
  unfold converted
  dsimp only
  split
  · split
    · next widens => exact (refused (.widened widens)).elim
    · exact ⟨_, rfl⟩
  · split
    · next both =>
        rw [Bool.and_eq_true] at both
        exact (refused (.reference both.1 both.2)).elim
    · exact ⟨_, rfl⟩

theorem exists_converted_iff (name : String) :
    (∃ value, converted name held given = .ok value) ↔ held.Accepts given := by
  constructor
  · rintro ⟨value, known⟩
    by_contra refused
    obtain ⟨detail, failed⟩ := converted_of_not_accepts name refused
    rw [failed] at known
    cases known
  · rintro (widens | ⟨holds, gives⟩)
    · obtain ⟨value, -, -, known⟩ := converted_of_widensTo name widens
      exact ⟨_, known⟩
    · exact ⟨given, converted_of_isReference name holds gives⟩

section Bindings

variable {stack : OperandStack}

theorem declareLocal_of_none
    (unbound : stack.local? name = none) (initial : RemoteValue) :
    declareLocal name initial stack =
      (.ok (), { stack with locals := stack.locals.insert name initial }) := by
  have free : ¬ stack.locals.contains name = true := by
    rw [Table.contains, show stack.locals.find? name = none from unbound]
    exact Bool.false_ne_true
  rw [declareLocal, if_neg free]

/-- A name can be declared once. -/
theorem declareLocal_of_some
    (bound : stack.local? name = some held) (initial : RemoteValue) :
    ∃ detail, declareLocal name initial stack = (.error (.malformedSequence detail), stack) := by
  have declared : stack.locals.contains name = true := by
    rw [Table.contains, show stack.locals.find? name = some held from bound]
    rfl
  rw [declareLocal, if_pos declared]
  exact ⟨_, rfl⟩

theorem assignLocal_of_none
    (unbound : stack.local? name = none) (given : RemoteValue) :
    assignLocal name given stack = (.ok false, stack) := by
  rw [assignLocal, show stack.locals.find? name = none from unbound]

theorem assignLocal_of_converted
    (bound : stack.local? name = some held) {new : RemoteValue}
    (converts : converted name held given = .ok new) :
    assignLocal name given stack =
      (.ok true, { stack with locals := stack.locals.insert name new }) := by
  rw [assignLocal, show stack.locals.find? name = some held from bound]
  simp only [converts]

theorem assignLocal_of_not_accepts
    (bound : stack.local? name = some held) (refused : ¬ held.Accepts given) :
    ∃ detail, assignLocal name given stack = (.error (.typeMismatch detail), stack) := by
  obtain ⟨detail, failed⟩ := converted_of_not_accepts name refused
  refine ⟨detail, ?_⟩
  rw [assignLocal, show stack.locals.find? name = some held from bound]
  simp only [failed]

end Bindings

/-! ## Components -/

/-- The parts of a stack that an operation may change. -/
inductive Component where
  | operands
  | temporary (slot : Nat)
  | binding (name : String)
  | exception
  deriving DecidableEq

@[reducible]
def Component.Content : Component → Type
  | operands => List RemoteValue
  | temporary _ => Option RemoteValue
  | binding _ => Option RemoteValue
  | exception => Option ObjectHandle

/-- What a stack has in a component. -/
def content (stack : OperandStack) : (component : Component) → component.Content
  | .operands => stack.operands
  | .temporary slot => stack.temporaries.find? slot
  | .binding name => stack.local? name
  | .exception => stack.exception

variable {stack : OperandStack} {component : Component}

theorem content_operands_ne
    (operands : List RemoteValue) (apart : component ≠ .operands) :
    { stack with operands := operands }.content component = stack.content component := by
  cases component with
  | operands => exact (apart rfl).elim
  | temporary | binding | exception => rfl

theorem content_temporary_ne
    {slot : Nat} (value : RemoteValue) (apart : component ≠ .temporary slot) :
    { stack with temporaries := stack.temporaries.insert slot value }.content component =
      stack.content component := by
  cases component with
  | temporary other => exact Table.find?_insert_ne _ _ fun same => apart (congrArg _ same)
  | operands | binding | exception => rfl

theorem content_binding_ne
    (value : RemoteValue) (apart : component ≠ .binding name) :
    { stack with locals := stack.locals.insert name value }.content component =
      stack.content component := by
  cases component with
  | binding other => exact Table.find?_insert_ne _ _ fun same => apart (congrArg _ same)
  | operands | temporary | exception => rfl

/-! ## The operations that may fail -/

/-- An operation on a stack that may fail. -/
inductive Fallible where
  | pop
  | popMany (count : Nat)
  | peek
  | dup
  | temporary (slot : Nat)
  | setTemporary (slot : Nat) (value : RemoteValue)
  | declareLocal (name : String) (initial : RemoteValue)
  | assignLocal (name : String) (value : RemoteValue)

namespace Fallible

@[reducible]
def Result : Fallible → Type
  | pop => RemoteValue
  | popMany _ => List RemoteValue
  | peek => RemoteValue
  | dup => Unit
  | temporary _ => RemoteValue
  | setTemporary _ _ => Unit
  | declareLocal _ _ => Unit
  | assignLocal _ _ => Bool

def carryOut : (operation : Fallible) → Action operation.Result
  | pop => OperandStack.pop
  | popMany count => OperandStack.popMany count
  | peek => fun stack => (stack.peek, stack)
  | dup => OperandStack.dup
  | temporary slot => fun stack => (stack.temporary slot, stack)
  | setTemporary slot value => OperandStack.setTemporary slot value
  | declareLocal name initial => OperandStack.declareLocal name initial
  | assignLocal name value => OperandStack.assignLocal name value

/-- The component that an operation may change; two of them only look. -/
def component? : Fallible → Option Component
  | pop => some .operands
  | popMany _ => some .operands
  | peek => none
  | dup => some .operands
  | temporary _ => none
  | setTemporary slot _ => some (.temporary slot)
  | declareLocal name _ => some (.binding name)
  | assignLocal name _ => some (.binding name)

/-- The stacks on which an operation fails. -/
def Refused : Fallible → OperandStack → Prop
  | pop, stack => stack.operands = []
  | popMany count, stack => stack.size < count
  | peek, stack => stack.operands = []
  | dup, stack => stack.operands = []
  | temporary slot, stack => temporaryCount ≤ slot ∨ stack.temporaries.find? slot = none
  | setTemporary slot _, _ => temporaryCount ≤ slot
  | declareLocal name _, stack => stack.local? name ≠ none
  | assignLocal name value, stack => ∃ held, stack.local? name = some held ∧ ¬ held.Accepts value

/-- What an operation that succeeds returns, and what it leaves in its own component. -/
def Leaves : (operation : Fallible) → OperandStack → operation.Result → OperandStack → Prop
  | pop, before, value, after => before.operands = value :: after.operands
  | popMany count, before, values, after =>
      values.length = count ∧ before.operands = values.reverse ++ after.operands
  | peek, before, value, _ => before.operands.head? = some value
  | dup, before, _, after =>
      ∃ top, before.operands.head? = some top ∧ after.operands = top :: before.operands
  | temporary slot, before, value, _ => before.temporaries.find? slot = some value
  | setTemporary slot value, _, _, after => after.temporaries.find? slot = some value
  | declareLocal name initial, _, _, after => after.local? name = some initial
  | assignLocal name value, before, declared, after =>
      match before.local? name with
      | none => declared = false ∧ after.local? name = none
      | some held => declared = true ∧ ∃ new, converted name held value = .ok new ∧
          after.local? name = some new

/-- How an operation may end on a stack. -/
inductive Outcome (operation : Fallible) (stack : OperandStack) :
    Except EvalError operation.Result × OperandStack → Prop where
  | failed (error : EvalError) (refused : operation.Refused stack) :
      Outcome operation stack (.error error, stack)
  | succeeded
      (result : operation.Result) (after : OperandStack) (admitted : ¬ operation.Refused stack)
      (leaves : operation.Leaves stack result after)
      (apart : ∀ component, operation.component? ≠ some component →
        after.content component = stack.content component) :
      Outcome operation stack (.ok result, after)

/-- An operation that only looks. -/
theorem Outcome.looked
    (operation : Fallible) (result : operation.Result) (admitted : ¬ operation.Refused stack)
    (leaves : operation.Leaves stack result stack) :
    Outcome operation stack (.ok result, stack) :=
  .succeeded result stack admitted leaves fun _ _ => rfl

theorem outcome_popMany (count : Nat) (stack : OperandStack) :
    Outcome (popMany count) stack (OperandStack.popMany count stack) := by
  unfold OperandStack.popMany
  split
  · next short => exact .failed _ short
  · next enough =>
      refine .succeeded _ _ enough ⟨?_, ?_⟩ fun component apart => ?_
      · simp only [List.length_reverse, List.length_take]
        omega
      · rw [List.reverse_reverse, List.take_append_drop]
      · exact content_operands_ne _ fun same => apart (congrArg some same.symm)

theorem outcome_temporary (slot : Nat) (stack : OperandStack) :
    Outcome (temporary slot) stack (stack.temporary slot, stack) := by
  unfold OperandStack.temporary
  split
  · next inside =>
      split
      · next value found =>
          refine .looked (temporary slot) value ?_ found
          rintro (outside | unwritten)
          · omega
          · rw [found] at unwritten
            cases unwritten
      · next unwritten => exact .failed _ (.inr unwritten)
  · next outside => exact .failed _ (.inl (Nat.le_of_not_lt outside))

theorem outcome_setTemporary (slot : Nat) (value : RemoteValue) (stack : OperandStack) :
    Outcome (setTemporary slot value) stack (OperandStack.setTemporary slot value stack) := by
  unfold OperandStack.setTemporary
  split
  · next inside =>
      refine .succeeded _ _ (Nat.not_le_of_lt inside) (Table.find?_insert_self ..)
        fun component apart => ?_
      exact content_temporary_ne value fun same => apart (congrArg some same.symm)
  · next outside => exact .failed _ (Nat.le_of_not_lt outside)

theorem outcome_declareLocal (name : String) (initial : RemoteValue) (stack : OperandStack) :
    Outcome (declareLocal name initial) stack (OperandStack.declareLocal name initial stack) := by
  cases known : stack.local? name with
  | none =>
      rw [declareLocal_of_none known]
      refine .succeeded _ _ (fun declared => declared known) (Table.find?_insert_self ..)
        fun component apart => ?_
      exact content_binding_ne initial fun same => apart (congrArg some same.symm)
  | some held =>
      obtain ⟨detail, failed⟩ := declareLocal_of_some known initial
      rw [failed]
      refine .failed _ fun unbound => ?_
      rw [known] at unbound
      cases unbound

theorem outcome_assignLocal (name : String) (value : RemoteValue) (stack : OperandStack) :
    Outcome (assignLocal name value) stack (OperandStack.assignLocal name value stack) := by
  cases known : stack.local? name with
  | none =>
      rw [assignLocal_of_none known]
      refine .looked (assignLocal name value) false ?_ ?_
      · rintro ⟨held, found, -⟩
        rw [known] at found
        cases found
      · simp only [Leaves, known, and_self]
  | some held =>
      by_cases accepts : held.Accepts value
      · obtain ⟨new, converts⟩ := (exists_converted_iff name).2 accepts
        rw [assignLocal_of_converted known converts]
        refine Outcome.succeeded (show (assignLocal name value).Result from true) _ ?_ ?_
          fun component apart => ?_
        · rintro ⟨other, found, refused⟩
          obtain rfl : held = other := Option.some_inj.1 (known.symm.trans found)
          exact refused accepts
        · simp only [Leaves, known, true_and]
          exact ⟨new, converts, Table.find?_insert_self ..⟩
        · exact content_binding_ne new fun same => apart (congrArg some same.symm)
      · obtain ⟨detail, failed⟩ := assignLocal_of_not_accepts known accepts
        rw [failed]
        exact .failed _ ⟨held, known, accepts⟩

/-- Each operation, on each stack, ends in one of the two ways. -/
theorem outcome (operation : Fallible) (stack : OperandStack) :
    Outcome operation stack (operation.carryOut stack) := by
  cases operation with
  | pop =>
      rcases stack with ⟨_ | ⟨top, below⟩, temporaries, locals, exception⟩
      · exact .failed _ rfl
      · refine .succeeded _ _ (List.cons_ne_nil top below) rfl fun component apart => ?_
        exact content_operands_ne _ fun same => apart (congrArg some same.symm)
  | popMany count => exact outcome_popMany count stack
  | peek =>
      rcases stack with ⟨_ | ⟨top, below⟩, temporaries, locals, exception⟩
      · exact .failed _ rfl
      · exact .looked peek top (List.cons_ne_nil top below) rfl
  | dup =>
      rcases stack with ⟨_ | ⟨top, below⟩, temporaries, locals, exception⟩
      · exact .failed _ rfl
      · refine .succeeded _ _ (List.cons_ne_nil top below) ⟨top, rfl, rfl⟩ fun component apart => ?_
        exact content_operands_ne _ fun same => apart (congrArg some same.symm)
  | temporary slot => exact outcome_temporary slot stack
  | setTemporary slot value => exact outcome_setTemporary slot value stack
  | declareLocal name initial => exact outcome_declareLocal name initial stack
  | assignLocal name value => exact outcome_assignLocal name value stack

/-- How far an operation reaches. -/
structure Confined (operation : Fallible) : Prop where
  /-- A failure changes nothing. -/
  failed : ∀ stack error after, operation.carryOut stack = (.error error, after) → after = stack
  /-- A success changes the operation's own component at most. -/
  succeeded : ∀ stack result after, operation.carryOut stack = (.ok result, after) →
    ∀ component, operation.component? ≠ some component →
      after.content component = stack.content component
  /-- What a success returns, and what it leaves in that component. -/
  leaves : ∀ stack result after, operation.carryOut stack = (.ok result, after) →
    operation.Leaves stack result after
  refuses : ∀ stack, (∃ error, (operation.carryOut stack).1 = .error error) ↔
    operation.Refused stack

theorem confined (operation : Fallible) : Confined operation := by
  refine { failed := ?failed, succeeded := ?succeeded, leaves := ?leaves, refuses := ?refuses }
  case failed =>
    intro stack error after ended
    have outcome := operation.outcome stack
    rw [ended] at outcome
    cases outcome with
    | failed => rfl
  case succeeded =>
    intro stack result after ended
    have outcome := operation.outcome stack
    rw [ended] at outcome
    cases outcome with
    | succeeded _ _ admitted leaves apart => exact apart
  case leaves =>
    intro stack result after ended
    have outcome := operation.outcome stack
    rw [ended] at outcome
    cases outcome with
    | succeeded _ _ admitted leaves apart => exact leaves
  case refuses =>
    intro stack
    have outcome := operation.outcome stack
    generalize operation.carryOut stack = ended at outcome
    cases outcome with
    | failed error refused => exact ⟨fun _ => refused, fun _ => ⟨error, rfl⟩⟩
    | succeeded result after admitted leaves apart =>
        refine ⟨?_, fun refused => (admitted refused).elim⟩
        rintro ⟨error, impossible⟩
        cases impossible

end Fallible

/-! ## Many values -/

/-- Put several values on top, one after the other. -/
def pushAll (values : List RemoteValue) (stack : OperandStack) : OperandStack :=
  values.foldl (fun stack value => stack.push value) stack

theorem pushAll_eq (values : List RemoteValue) (stack : OperandStack) :
    stack.pushAll values = { stack with operands := values.reverse ++ stack.operands } := by
  induction values generalizing stack with
  | nil => rfl
  | cons value values ih =>
      show (stack.push value).pushAll values = _
      rw [ih]
      simp [push]

/-- What was pushed last is taken first, so many values come back as they were pushed. -/
theorem popMany_pushAll (values : List RemoteValue) (stack : OperandStack) :
    popMany values.length (stack.pushAll values) = (.ok values, stack) := by
  have enough : ¬ (values.reverse ++ stack.operands).length < values.length := by simp
  have taken : (values.reverse ++ stack.operands).take values.length = values.reverse :=
    List.take_left' (List.length_reverse ..)
  have left : (values.reverse ++ stack.operands).drop values.length = stack.operands :=
    List.drop_left' (List.length_reverse ..)
  rw [pushAll_eq, popMany, if_neg enough, taken, left, List.reverse_reverse]

/-- An operation that fails changes nothing, and one that succeeds changes its own component at
most.  Values that were pushed are taken again in their order, and the stack is as before. -/
theorem stack_operations_are_confined :
    (∀ operation : Fallible, operation.Confined) ∧
      ∀ (values : List RemoteValue) (stack : OperandStack),
        popMany values.length (stack.pushAll values) = (.ok values, stack) :=
  ⟨Fallible.confined, popMany_pushAll⟩

end OperandStack

end FrameEval
