import FrameEval.Evaluation.Run

/-!
# Missteps of a program

A program that keeps to its stack depths cannot underflow the stack, leave it with other than
one value, or jump outside itself.  These three errors are its missteps.  Everything else that
an evaluation finds on its own is either no fault of the program at all (`Blameless`) or one of
the few faults of another kind, whose texts cannot be confused with that of a jump.

`FailsOnly` limits the errors of a result to any kind of them.  The operators on values, whatever
they are given, fail only with errors of the semantics of values.
-/

namespace FrameEval

namespace EvalError

/-- Whether an error says that a program went wrong with its stack or its jumps. -/
def IsMisstep : EvalError → Prop
  | stackUnderflow => True
  | malformedResult _ => True
  | malformedSequence detail => ∃ counter target length : Nat,
      detail = s!"jump from {counter} to {target} outside 0..={length}"
  | _ => False

theorem IsMisstep.isInternal
    {error : EvalError} (misstep : error.IsMisstep) :
    error.isInternal = true := by
  cases error <;> first
    | rfl
    | exact misstep.elim

/-- A text begins as the first of its parts does. -/
theorem head?_append
    {first : String} {letter : Char} (rest : String)
    (begins : first.toList.head? = some letter) :
    (first ++ rest).toList.head? = some letter := by
  rw [String.toList_append, List.head?_append, begins]
  rfl

/-- The text of a jump outside the program begins with a `j`. -/
theorem not_isMisstep_malformedSequence
    {detail : String} (letter : Char)
    (begins : detail.toList.head? = some letter) (differs : letter ≠ 'j') :
    ¬ (malformedSequence detail).IsMisstep := by
  rintro ⟨counter, target, length, rfl⟩
  have jump : (s!"jump from {counter} to {target} outside 0..={length}").toList.head? =
      some 'j' := by
    iterate 5 refine head?_append _ ?_
    rfl
  rw [jump] at begins
  exact differs (Option.some.inj begins).symm

theorem not_isMisstep_slotOutOfRange
    (slot : Nat) :
    ¬ (OperandStack.slotOutOfRange slot).IsMisstep := by
  refine not_isMisstep_malformedSequence 't' ?_ (by decide)
  iterate 4 refine head?_append _ ?_
  rfl

theorem not_isMisstep_temporary
    {slot : Nat} {stack : OperandStack} {error : EvalError}
    (failed : stack.temporary slot = .error error) :
    ¬ error.IsMisstep := by
  rw [OperandStack.temporary] at failed
  split at failed
  · split at failed
    · cases failed
    · cases failed
      refine not_isMisstep_malformedSequence 't' ?_ (by decide)
      iterate 2 refine head?_append _ ?_
      rfl
  · cases failed
    exact not_isMisstep_slotOutOfRange slot

end EvalError

/-! ## Errors that results are limited to -/

/-- A result whose error, if it is one, is an allowed one. -/
def FailsOnly {ε α : Type} (allowed : ε → Prop) (result : Except ε α) : Prop :=
  ∀ error, result = .error error → allowed error

/-- A result whose error, if it is one, does not blame the program. -/
def Blameless {α : Type} (result : Except EvalError α) : Prop :=
  ∀ error, result = .error error → error.isInternal = false

section FailsOnly

variable {ε α β : Type} {allowed tolerated : ε → Prop}

theorem failsOnly_ok
    (value : α) : FailsOnly allowed (.ok value : Except ε α) :=
  fun _ impossible => by cases impossible

theorem failsOnly_error
    {error : ε} (allows : allowed error) :
    FailsOnly allowed (.error error : Except ε α) := by
  rintro _ ⟨⟩
  exact allows

theorem FailsOnly.bind
    {result : Except ε α} {onward : α → Except ε β}
    (first : FailsOnly allowed result)
    (rest : ∀ value, result = .ok value → FailsOnly allowed (onward value)) :
    FailsOnly allowed (result >>= onward) := by
  cases result with
  | ok value => exact rest value rfl
  | error error => exact failsOnly_error (first error rfl)

theorem FailsOnly.map
    {result : Except ε α} (fails : FailsOnly allowed result) (change : α → β) :
    FailsOnly allowed (result.map change) := by
  cases result with
  | ok value => exact failsOnly_ok _
  | error error => exact failsOnly_error (fails error rfl)

theorem FailsOnly.ite
    {condition : Prop} [Decidable condition] {first second : Except ε α}
    (holds : condition → FailsOnly allowed first) (fails : FailsOnly allowed second) :
    FailsOnly allowed (if condition then first else second) := by
  split
  · next known => exact holds known
  · exact fails

theorem FailsOnly.mono
    {result : Except ε α} (fails : FailsOnly allowed result)
    (tolerates : ∀ error, allowed error → tolerated error) :
    FailsOnly tolerated result := by
  intro error failed
  exact tolerates error (fails error failed)

theorem Blameless.not_isMisstep
    {result : Except EvalError α} {error : EvalError}
    (blameless : Blameless result) (failed : result = .error error) :
    ¬ error.IsMisstep := by
  intro misstep
  have internal := misstep.isInternal
  rw [blameless error failed] at internal
  cases internal

end FailsOnly

/-! ## Errors of operators and conversions -/

/-- A result whose error, if it is one, lies with the values. -/
def Semantic {α : Type} (result : Except EvalError α) : Prop :=
  FailsOnly (fun error => error.kind = .valueSemantics) result

theorem Semantic.blameless
    {α : Type} {result : Except EvalError α} (semantic : Semantic result) :
    Blameless result := by
  intro error failed
  rw [EvalError.isInternal, semantic error failed]
  rfl

theorem Primitive.semantic_cast
    (value : Primitive) (target : PrimitiveKind) :
    Semantic (value.cast target) := by
  rw [cast]
  split
  · exact failsOnly_ok _
  · split
    · exact failsOnly_ok _
    · exact failsOnly_error rfl

namespace BinaryOp

theorem semantic_onInts
    (op : BinaryOp) (left right : Int32) : Semantic (op.onInts left right) := by
  cases op
  case div | rem =>
    simp only [onInts]
    split
    · exact failsOnly_error rfl
    · exact failsOnly_ok _
  all_goals exact failsOnly_ok _

theorem semantic_onLongs
    (op : BinaryOp) (left right : Int64) : Semantic (op.onLongs left right) := by
  cases op
  case div | rem =>
    simp only [onLongs]
    split
    · exact failsOnly_error rfl
    · exact failsOnly_ok _
  all_goals exact failsOnly_ok _

theorem semantic_shift
    (op : BinaryOp) (left right : Primitive) : Semantic (op.shift left right) := by
  unfold shift
  split
  · exact failsOnly_error rfl
  · exact failsOnly_ok _
  · split
    · exact failsOnly_ok _
    · exact failsOnly_error rfl

theorem semantic_elim
    {op : BinaryOp} {left right : Primitive} (result : Option Primitive) :
    Semantic (result.elim (.error (op.mismatch left right)) .ok) := by
  cases result with
  | none => exact failsOnly_error rfl
  | some value => exact failsOnly_ok value

theorem semantic_apply
    (op : BinaryOp) (left right : Primitive) : Semantic (op.apply left right) := by
  unfold apply
  split
  · split
    · exact failsOnly_ok _
    · exact failsOnly_error rfl
  · split
    · exact op.semantic_shift left right
    · split
      · exact failsOnly_error rfl
      · exact op.semantic_onInts _ _
      · exact op.semantic_onLongs _ _
      · exact semantic_elim _
      · exact semantic_elim _

end BinaryOp

theorem UnaryOp.semantic_apply
    (op : UnaryOp) (operand : Primitive) : Semantic (op.apply operand) := by
  rw [apply]
  split
  · exact failsOnly_ok _
  · exact failsOnly_error rfl

theorem OperandStack.semantic_converted
    (name : String) (old new : RemoteValue) : Semantic (converted name old new) := by
  unfold converted
  split
  · split
    · exact (Primitive.semantic_cast _ _).map _
    · exact failsOnly_error rfl
  · split
    · exact failsOnly_ok _
    · exact failsOnly_error rfl

theorem Evaluation.semantic_applyBinary
    (op : BinaryOp) (left right : RemoteValue) : Semantic (applyBinary op left right) := by
  unfold applyBinary
  split
  · exact (op.semantic_apply _ _).map _
  · split
    · split
      · exact failsOnly_ok _
      · exact failsOnly_ok _
      · exact failsOnly_error rfl
    · exact failsOnly_error rfl

end FrameEval
