import FrameEval.Evaluation.Context
import FrameEval.Proofs.Primitive.Integer

/-!
# Casts of integers

A cast to an integral kind takes an integer modulo the width of the kind, whether it goes there
at once or through 32 bits.  So an integer that the kind has is kept; a kind that widens to
another has only such integers.
-/

namespace FrameEval

namespace Primitive

variable {value : Primitive} {kind : PrimitiveKind} {number : Int}

/-! ## The value of a cast -/

/-- The narrow kinds are reached through 32 bits, of which they keep the lowest ones. -/
theorem toKind?_integer
    (integral : kind.isIntegral = true) (number : Int) :
    (Numeric.integer number).toKind? kind = some (wrapped kind number) := by
  cases kind with
  | byte => exact congrArg (fun word => some (byte word)) Int32.toInt8_ofInt
  | short => exact congrArg (fun word => some (short word)) Int32.toInt16_ofInt
  | char =>
      refine congrArg (fun word => some (char word)) (UInt16.toNat_inj.1 ?_)
      have narrow : (Numeric.integer number).toInt32.toUInt32.toUInt16.toNat =
          (number % 2 ^ 32).toNat % 2 ^ 16 :=
        congrArg (· % 2 ^ 16) (BitVec.toNat_ofInt number)
      have word := toNat_ofInt number
      omega
  | int | long => rfl
  | boolean | float | double => cases integral

theorem cast_of_toInt?
    (known : value.toInt? = some number) (integral : kind.isIntegral = true) :
    value.cast kind = .ok (wrapped kind number) := by
  have numeric : value.numeric? = some (.integer number) := by
    cases value with
    | byte | char | short | int | long =>
        cases known
        rfl
    | boolean | float | double => cases known
  unfold cast
  split
  · next same =>
    rw [← same, wrapped_of_toInt? known]
  · simp only [numeric, Option.bind_some, toKind?_integer integral]

theorem wrapped_of_modEq
    {other : Int} (integral : kind.isIntegral = true)
    (congruent : number ≡ other [ZMOD 2 ^ kind.bits]) :
    wrapped kind number = wrapped kind other := by
  rcases exists_toInt?_wrapped integral number with ⟨held, known, near⟩
  rcases exists_toInt?_wrapped integral other with ⟨held', known', near'⟩
  refine eq_of_modEq (by simp) known known' ?_
  rw [kind_wrapped]
  exact near.trans (congruent.trans near'.symm)

/-- Integers of an integral kind are apart modulo its width. -/
theorem cast_unique
    {result other : Primitive} {held number' : Int} (stands : result.StandsFor kind held)
    (near : held ≡ number [ZMOD 2 ^ kind.bits]) (stands' : other.StandsFor kind number')
    (near' : number' ≡ number [ZMOD 2 ^ kind.bits]) : other = result := by
  rcases stands with ⟨rfl, known⟩
  rcases stands' with ⟨same, known'⟩
  rw [← same] at near near'
  exact eq_of_modEq same known' known (near'.trans near.symm)

theorem cast_widened
    (known : value.toInt? = some number) (wider : value.kind.widensTo kind = true)
    (integral : kind.isIntegral = true) :
    ∃ held, value.cast kind = .ok held ∧ held.StandsFor kind number :=
  ⟨_, cast_of_toInt? known integral, kind_wrapped .., toInt?_wrapped integral
    ((covers_of_toInt? known).widened wider integral)⟩

/-- On the way a wider kind keeps all that the narrower one is made of. -/
theorem cast_cast
    {between : PrimitiveKind} (known : value.toInt? = some number)
    (integral : between.isIntegral = true) (integral' : kind.isIntegral = true)
    (wide : kind.bits ≤ between.bits) :
    ∃ middle, value.cast between = .ok middle ∧ middle.cast kind = value.cast kind := by
  rcases exists_toInt?_wrapped integral number with ⟨held, known', near⟩
  refine ⟨_, cast_of_toInt? known integral, ?_⟩
  rw [cast_of_toInt? known' integral', cast_of_toInt? known integral',
    wrapped_of_modEq integral' (near.of_dvd (pow_dvd_pow 2 wide))]

/-! ## Casts between all kinds -/

theorem numeric?_eq_none_iff
    (value : Primitive) : value.numeric? = none ↔ value.kind = .boolean := by
  cases value <;> simp [numeric?, toInt?, Primitive.kind]

theorem toKind?_eq_none_iff
    (number : Numeric) (kind : PrimitiveKind) :
    number.toKind? kind = none ↔ kind = .boolean := by
  cases kind <;> simp [Numeric.toKind?]

/-- Only a boolean is no number, and only a boolean is not made of one. -/
theorem converted_eq_none_iff :
    (value.numeric?.bind fun number => number.toKind? kind) = none ↔
      value.kind = .boolean ∨ kind = .boolean := by
  rw [← numeric?_eq_none_iff]
  cases value.numeric? with
  | none => simp
  | some number => simp [toKind?_eq_none_iff]

theorem cast_of_alike
    (alike : value.kind = .boolean ↔ kind = .boolean) :
    ∃ result, value.cast kind = .ok result ∧ result.kind = kind := by
  have returns : ∃ result, value.cast kind = .ok result := by
    unfold cast
    split
    · exact ⟨value, rfl⟩
    · next differs =>
      split
      · next result _ => exact ⟨result, rfl⟩
      · next none =>
        rcases converted_eq_none_iff.1 none with boolean | boolean
        · exact (differs (boolean.trans (alike.1 boolean).symm)).elim
        · exact (differs ((alike.2 boolean).trans boolean.symm)).elim
  rcases returns with ⟨result, returned⟩
  exact ⟨result, returned, kind_cast returned⟩

theorem cast_of_unlike
    (unlike : ¬ (value.kind = .boolean ↔ kind = .boolean)) :
    value.cast kind = .error (.illegalCast value.kind.name kind.name) := by
  have differs : value.kind ≠ kind := fun same => unlike (by rw [same])
  have boolean : value.kind = .boolean ∨ kind = .boolean := by
    by_contra neither
    rw [not_or] at neither
    exact unlike (iff_of_false neither.1 neither.2)
  rw [cast, if_neg differs, converted_eq_none_iff.2 boolean]

end Primitive

/-! ## Assignment -/

section Assignment

variable {value : Primitive} {kind : PrimitiveKind} {number : Int}

/-- A value is taken where a type is declared exactly if its kind widens to that type. -/
theorem start_assign_integer
    (setting : Setting) (activation : Activation) {declared : String}
    (known : value.toInt? = some number) (declares : PrimitiveKind.ofSignature? declared = some kind)
    (integral : kind.isIntegral = true) :
    (value.kind.widensTo kind = true → ∃ held : Primitive, held.StandsFor kind number ∧
      (Evaluation.assign setting (.primitive value) declared).start activation =
        .done (.ok (.primitive held), activation)) ∧
    (value.kind.widensTo kind = false →
      (Evaluation.assign setting (.primitive value) declared).start activation =
        .done (.error (.failed (Evaluation.notAssignable (.primitive value) declared)),
          activation)) := by
  constructor
  · intro wider
    rcases Primitive.cast_widened known wider integral with ⟨held, returned, stands⟩
    refine ⟨held, stands, ?_⟩
    simp only [Evaluation.assign, declares, wider, returned, if_true]
    rfl
  · intro narrower
    simp only [Evaluation.assign, declares, narrower, Bool.false_eq_true, if_false]
    rfl

/-- A local keeps its kind, and a value that does not widen to it is not taken. -/
theorem assignLocal_integer
    (stack : OperandStack) {name : String} {old : Primitive}
    (known : value.toInt? = some number)
    (present : stack.local? name = some (.primitive old))
    (integral : old.kind.isIntegral = true) :
    (value.kind.widensTo old.kind = true → ∃ (held : Primitive) (after : OperandStack),
      held.StandsFor old.kind number ∧
        OperandStack.assignLocal name (.primitive value) stack = (.ok true, after) ∧
          after.local? name = some (.primitive held) ∧
            ∀ other, other ≠ name → after.local? other = stack.local? other) ∧
    (value.kind.widensTo old.kind = false → ∃ detail,
      OperandStack.assignLocal name (.primitive value) stack =
        (.error (.typeMismatch detail), stack)) := by
  rw [OperandStack.local?] at present
  constructor
  · intro wider
    rcases Primitive.cast_widened known wider integral with ⟨held, returned, stands⟩
    refine ⟨held, { stack with locals := stack.locals.insert name (.primitive held) }, stands, ?_,
      Table.find?_insert_self .., fun other differs => Table.find?_insert_ne _ _ differs⟩
    simp only [OperandStack.assignLocal, present, OperandStack.converted, wider, returned, if_true]
    rfl
  · intro narrower
    simp only [OperandStack.assignLocal, present, OperandStack.converted, narrower,
      Bool.false_eq_true, if_false]
    exact ⟨_, rfl⟩

end Assignment

/-- What becomes of a value that stands for an integer where another integral kind is wanted. -/
structure CastsInteger (value : Primitive) (number : Int) (kind : PrimitiveKind) : Prop where
  /-- A cast returns the one value of the kind that is congruent modulo the width. -/
  truncates : ∃ (result : Primitive) (held : Int), value.cast kind = .ok result ∧
    result.StandsFor kind held ∧ held ≡ number [ZMOD 2 ^ kind.bits] ∧
      ∀ (other : Primitive) (number' : Int), other.StandsFor kind number' →
        number' ≡ number [ZMOD 2 ^ kind.bits] → other = result
  /-- Widening keeps the integer. -/
  widens : value.kind.widensTo kind = true →
    ∃ result, value.cast kind = .ok result ∧ result.StandsFor kind number
  /-- A detour through a kind that is at least as wide makes no difference. -/
  detours : ∀ between : PrimitiveKind, between.isIntegral = true → kind.bits ≤ between.bits →
    ∃ middle, value.cast between = .ok middle ∧ middle.cast kind = value.cast kind
  /-- What is stored where the kind is declared is the integer, or nothing is stored. -/
  assigns : ∀ (setting : Setting) (activation : Activation) (declared : String),
    PrimitiveKind.ofSignature? declared = some kind →
      (value.kind.widensTo kind = true → ∃ held : Primitive, held.StandsFor kind number ∧
        (Evaluation.assign setting (.primitive value) declared).start activation =
          .done (.ok (.primitive held), activation)) ∧
      (value.kind.widensTo kind = false →
        (Evaluation.assign setting (.primitive value) declared).start activation =
          .done (.error (.failed (Evaluation.notAssignable (.primitive value) declared)),
            activation))
  /-- The same holds of a local that has a value of the kind. -/
  assignsLocal : ∀ (stack : OperandStack) (name : String) (old : Primitive),
    stack.local? name = some (.primitive old) → old.kind = kind →
      (value.kind.widensTo kind = true → ∃ (held : Primitive) (after : OperandStack),
        held.StandsFor kind number ∧
          OperandStack.assignLocal name (.primitive value) stack = (.ok true, after) ∧
            after.local? name = some (.primitive held) ∧
              ∀ other, other ≠ name → after.local? other = stack.local? other) ∧
      (value.kind.widensTo kind = false → ∃ detail,
        OperandStack.assignLocal name (.primitive value) stack =
          (.error (.typeMismatch detail), stack))

theorem castsInteger
    {value : Primitive} {kind : PrimitiveKind} {number : Int}
    (known : value.toInt? = some number) (integral : kind.isIntegral = true) :
    CastsInteger value number kind where
  truncates := by
    rcases Primitive.exists_toInt?_wrapped integral number with ⟨held, known', near⟩
    have stands : (Primitive.wrapped kind number).StandsFor kind held :=
      ⟨Primitive.kind_wrapped .., known'⟩
    exact ⟨_, held, Primitive.cast_of_toInt? known integral, stands, near,
      fun _ _ stands' near' => Primitive.cast_unique stands near stands' near'⟩
  widens wider := Primitive.cast_widened known wider integral
  detours _ integral' wide := Primitive.cast_cast known integral' integral wide
  assigns setting activation _ declares :=
    start_assign_integer setting activation known declares integral
  assignsLocal stack name old present same := by
    subst same
    exact assignLocal_integer stack known present integral

/--
A cast between integral kinds truncates modulo the width and widening keeps the integer, so what
is stored is the integer that was given.  A cast fails exactly between a boolean and another kind.
-/
theorem casts_truncate :
    (∀ (value : Primitive) (kind : PrimitiveKind),
      value.kind.isIntegral = true → kind.isIntegral = true →
        ∃ number : Int, value.toInt? = some number ∧ CastsInteger value number kind) ∧
    ∀ (value : Primitive) (kind : PrimitiveKind),
      ((value.kind = .boolean ↔ kind = .boolean) →
        ∃ result, value.cast kind = .ok result ∧ result.kind = kind) ∧
      (¬ (value.kind = .boolean ↔ kind = .boolean) →
        value.cast kind = .error (.illegalCast value.kind.name kind.name)) := by
  constructor
  · intro value kind integral integral'
    rcases (Primitive.exists_toInt?_iff value).2 integral with ⟨number, known⟩
    exact ⟨number, known, castsInteger known integral'⟩
  · intro value kind
    exact ⟨Primitive.cast_of_alike, Primitive.cast_of_unlike⟩

/-- A `long` cast to a `byte` of the other sign, a character kept, and a boolean that is none. -/
theorem long_is_truncated :
    (Primitive.long 384).cast .byte = .ok (.byte (-128)) ∧
    (∃ result, (Primitive.char 0xffff).cast .long = .ok result ∧
      result.StandsFor .long 0xffff) ∧
    (Primitive.boolean true).cast .int = .error (.illegalCast "boolean" "int") := by
  refine ⟨?_, ?_, casts_truncate.2 (.boolean true) .int |>.2 (by decide)⟩
  · rcases casts_truncate.1 (.long 384) .byte rfl rfl with ⟨number, known, casts⟩
    have same : number = 384 := (Option.some_inj.1 known).symm.trans (by decide)
    rcases casts.truncates with ⟨result, held, returned, -, -, unique⟩
    rw [returned, unique (.byte (-128)) (-128) ⟨rfl, by decide⟩ (by rw [same]; decide)]
  · rcases casts_truncate.1 (.char 0xffff) .long rfl rfl with ⟨number, known, casts⟩
    have same : number = 0xffff := (Option.some_inj.1 known).symm.trans (by decide)
    exact same ▸ casts.widens rfl

end FrameEval
