import FrameEval.Proofs.Evaluation.Misstep
import FrameEval.Proofs.Primitive.Integer
import Mathlib.Data.Int.Bitwise

/-!
# Operators on integers

On values of the integral kinds an operator other than a shift works on the integers that they
stand for.  `BinaryOp.onIntegers?` and `UnaryOp.onInteger?` say what the exact result is; it is
reduced to the width of the promoted operands.

Reduction respects sums, products and what is done bit by bit, but neither quotients nor
comparisons.  These are right because promotion keeps the operands, so that the words stand for
the very integers.
-/

namespace FrameEval

/-! ## Bits of words -/

section Words

variable {width : Nat} (left right : BitVec width)

/-- The bits of a word are the lowest ones of an integer of which it is made. -/
theorem getLsbD_ofInt
    (number : Int) {position : Nat} (within : position < width) :
    (BitVec.ofInt width number).getLsbD position = number.testBit position := by
  cases number with
  | ofNat number =>
      refine (BitVec.getLsbD_ofNat ..).trans ?_
      rw [decide_eq_true within, Bool.true_and]
      rfl
  | negSucc number =>
      rw [BitVec.ofInt_negSucc_eq_not_ofNat, BitVec.getLsbD_not, BitVec.getLsbD_ofNat,
        decide_eq_true within, Bool.true_and, Bool.true_and]
      rfl

theorem getLsbD_eq_testBit
    {position : Nat} (within : position < width) :
    left.getLsbD position = left.toInt.testBit position := by
  rw [← getLsbD_ofInt left.toInt within, BitVec.ofInt_toInt]

theorem ofInt_land :
    BitVec.ofInt width (left.toInt.land right.toInt) = left &&& right := by
  refine BitVec.eq_of_getLsbD_eq fun position within => ?_
  rw [getLsbD_ofInt _ within, Int.testBit_land, BitVec.getLsbD_and,
    getLsbD_eq_testBit left within, getLsbD_eq_testBit right within]

theorem ofInt_lor :
    BitVec.ofInt width (left.toInt.lor right.toInt) = left ||| right := by
  refine BitVec.eq_of_getLsbD_eq fun position within => ?_
  rw [getLsbD_ofInt _ within, Int.testBit_lor, BitVec.getLsbD_or,
    getLsbD_eq_testBit left within, getLsbD_eq_testBit right within]

theorem ofInt_xor :
    BitVec.ofInt width (left.toInt.xor right.toInt) = left ^^^ right := by
  refine BitVec.eq_of_getLsbD_eq fun position within => ?_
  rw [getLsbD_ofInt _ within, Int.testBit_lxor, BitVec.getLsbD_xor,
    getLsbD_eq_testBit left within, getLsbD_eq_testBit right within]

theorem ofInt_lnot :
    BitVec.ofInt width left.toInt.lnot = ~~~left := by
  refine BitVec.eq_of_getLsbD_eq fun position within => ?_
  rw [getLsbD_ofInt _ within, Int.testBit_lnot, BitVec.getLsbD_not,
    getLsbD_eq_testBit left within, decide_eq_true within, Bool.true_and]

end Words

/-! ## Exact results -/

namespace BinaryOp

variable {op : BinaryOp}

/-- The exact result of an arithmetic or a bitwise operator; there is none for a divisor of 0. -/
def onIntegers? (op : BinaryOp) (left right : Int) : Option Int :=
  match op with
  | add => some (left + right)
  | sub => some (left - right)
  | mul => some (left * right)
  | div => if right = 0 then none else some (left.tdiv right)
  | rem => if right = 0 then none else some (left.tmod right)
  | and => some (left.land right)
  | or => some (left.lor right)
  | xor => some (left.xor right)
  | _ => none

/-- What a comparison of two integers says. -/
def verdict? (op : BinaryOp) (left right : Int) : Option Bool :=
  match op with
  | eq => some (left = right)
  | ne => some (left ≠ right)
  | lt => some (left < right)
  | le => some (left ≤ right)
  | gt => some (right < left)
  | ge => some (right ≤ left)
  | _ => none

theorem ofOrdering_compare
    {left right : Int} {verdict : Bool} (decided : op.verdict? left right = some verdict) :
    op.ofOrdering (some (compare left right)) = .boolean verdict := by
  rcases lt_trichotomy left right with less | rfl | more
  · have order := compare_lt_iff_lt.2 less
    cases op <;> cases decided <;> simp [ofOrdering, order] <;> omega
  · cases op <;> cases decided <;> simp [ofOrdering]
  · have order := compare_gt_iff_gt.2 more
    cases op <;> cases decided <;> simp [ofOrdering, order] <;> omega

theorem not_isShift_of_onIntegers
    {left right exact : Int} (computes : op.onIntegers? left right = some exact) :
    op.isShift = false := by
  cases op <;> first
    | rfl
    | cases computes

theorem not_isShift_of_verdict
    {left right : Int} {verdict : Bool} (decided : op.verdict? left right = some verdict) :
    op.isShift = false := by
  cases op <;> first
    | rfl
    | cases decided

/-! ## Operators on words -/

section Words

variable {width : Nat}

/-- An arithmetic or a bitwise operator on words of any width. -/
def onWords? (op : BinaryOp) (left right : BitVec width) : Option (BitVec width) :=
  match op with
  | add => some (left + right)
  | sub => some (left - right)
  | mul => some (left * right)
  | div => if right = 0 then none else some (left.sdiv right)
  | rem => if right = 0 then none else some (left.srem right)
  | and => some (left &&& right)
  | or => some (left ||| right)
  | xor => some (left ^^^ right)
  | _ => none

/-- The word of the exact result depends on the words of the operands alone. -/
theorem onWords?_of_onIntegers
    (left right : BitVec width) {exact : Int}
    (computes : op.onIntegers? left.toInt right.toInt = some exact) :
    op.onWords? left right = some (BitVec.ofInt width exact) := by
  have zero : right.toInt = 0 ↔ right = 0 := by
    rw [← BitVec.toInt_zero, BitVec.toInt_inj]
    rfl
  cases op with
  | add =>
      cases computes
      rw [BitVec.ofInt_add, BitVec.ofInt_toInt, BitVec.ofInt_toInt]
      rfl
  | sub =>
      cases computes
      rw [Int.sub_eq_add_neg, BitVec.ofInt_add, BitVec.ofInt_neg, BitVec.ofInt_toInt,
        BitVec.ofInt_toInt, ← BitVec.sub_eq_add_neg]
      rfl
  | mul =>
      cases computes
      rw [BitVec.ofInt_mul, BitVec.ofInt_toInt, BitVec.ofInt_toInt]
      rfl
  | div =>
      simp only [onIntegers?, zero, Option.ite_none_left_eq_some, Option.some_inj] at computes
      rcases computes with ⟨nonzero, rfl⟩
      refine (if_neg nonzero).trans (congrArg some (BitVec.eq_of_toInt_eq ?_))
      rw [BitVec.toInt_sdiv, BitVec.toInt_ofInt]
  | rem =>
      simp only [onIntegers?, zero, Option.ite_none_left_eq_some, Option.some_inj] at computes
      rcases computes with ⟨nonzero, rfl⟩
      refine (if_neg nonzero).trans (congrArg some ?_)
      rw [← BitVec.toInt_srem, BitVec.ofInt_toInt]
  | and =>
      cases computes
      exact congrArg some (ofInt_land left right).symm
  | or =>
      cases computes
      exact congrArg some (ofInt_lor left right).symm
  | xor =>
      cases computes
      exact congrArg some (ofInt_xor left right).symm
  | shl | shr | ushr | eq | ne | lt | le | gt | ge => cases computes

end Words

theorem onInts_of_onWords
    {left right : Int32} {word : BitVec 32}
    (computes : op.onWords? left.toBitVec right.toBitVec = some word) :
    op.onInts left right = .ok (.int (.ofBitVec word)) := by
  cases op with
  | add | sub | mul | and | or | xor =>
      cases computes
      rfl
  | div | rem =>
      simp only [onWords?, Option.ite_none_left_eq_some, Option.some_inj] at computes
      rcases computes with ⟨nonzero, rfl⟩
      exact if_neg fun zero => nonzero (congrArg Int32.toBitVec zero)
  | shl | shr | ushr | eq | ne | lt | le | gt | ge => cases computes

theorem onLongs_of_onWords
    {left right : Int64} {word : BitVec 64}
    (computes : op.onWords? left.toBitVec right.toBitVec = some word) :
    op.onLongs left right = .ok (.long (.ofBitVec word)) := by
  cases op with
  | add | sub | mul | and | or | xor =>
      cases computes
      rfl
  | div | rem =>
      simp only [onWords?, Option.ite_none_left_eq_some, Option.some_inj] at computes
      rcases computes with ⟨nonzero, rfl⟩
      exact if_neg fun zero => nonzero (congrArg Int64.toBitVec zero)
  | shl | shr | ushr | eq | ne | lt | le | gt | ge => cases computes

theorem onInts_of_verdict
    {left right : Int32} {verdict : Bool}
    (decided : op.verdict? left.toInt right.toInt = some verdict) :
    op.onInts left right = .ok (.boolean verdict) := by
  rw [← ofOrdering_compare decided]
  cases op <;> first
    | rfl
    | cases decided

theorem onLongs_of_verdict
    {left right : Int64} {verdict : Bool}
    (decided : op.verdict? left.toInt right.toInt = some verdict) :
    op.onLongs left right = .ok (.boolean verdict) := by
  rw [← ofOrdering_compare decided]
  cases op <;> first
    | rfl
    | cases decided

end BinaryOp

/-! ## Operators on values -/

section Operands

variable {left right : Primitive} {first second : Int}

/-- Two integers are promoted to words that stand for the same integers. -/
theorem Primitive.promote?_of_toInt?
    (known : left.toInt? = some first) (known' : right.toInt? = some second) :
    (left.kind.joint right.kind = .int ∧ ∃ word word' : Int32,
      left.promote? right = some (.ints word word') ∧
        word.toInt = first ∧ word'.toInt = second) ∨
    (left.kind.joint right.kind = .long ∧ ∃ word word' : Int64,
      left.promote? right = some (.longs word word') ∧
        word.toInt = first ∧ word'.toInt = second) := by
  have integral := (exists_toInt?_iff left).1 ⟨first, known⟩
  have integral' := (exists_toInt?_iff right).1 ⟨second, known'⟩
  have covers := (covers_of_toInt? known).joint integral right.kind
  have covers' := (covers_of_toInt? known').joint integral' left.kind
  rw [PrimitiveKind.joint_comm] at covers'
  rw [PrimitiveKind.isIntegral_iff] at integral integral'
  by_cases wide : left.kind = .long ∨ right.kind = .long
  · have joint : left.kind.joint right.kind = .long := if_pos wide
    rw [joint] at covers covers'
    refine .inr ⟨joint, _, _, ?_, Int64.toInt_ofInt_of_le covers.1 covers.2,
      Int64.toInt_ofInt_of_le covers'.1 covers'.2⟩
    simp [promote?, integral, integral', wide, known, known']
  · have joint : left.kind.joint right.kind = .int := if_neg wide
    rw [joint] at covers covers'
    refine .inl ⟨joint, _, _, ?_, Int32.toInt_ofInt_of_le covers.1 covers.2,
      Int32.toInt_ofInt_of_le covers'.1 covers'.2⟩
    simp [promote?, integral, integral', wide, known, known']

/-- Operands are promoted to integers only if both of them are integers. -/
theorem Primitive.not_promoted_of_not_integral
    (other : ¬ (left.kind.isIntegral = true ∧ right.kind.isIntegral = true)) :
    (∀ word word', left.promote? right ≠ some (.ints word word')) ∧
      ∀ word word', left.promote? right ≠ some (.longs word word') := by
  simp only [PrimitiveKind.isIntegral_iff] at other
  unfold promote?
  by_cases boolean : left.kind = .boolean ∨ right.kind = .boolean
  · simp [boolean]
  by_cases double : left.kind = .double ∨ right.kind = .double
  · simp [boolean, double]
  by_cases float : left.kind = .float ∨ right.kind = .float
  · simp [boolean, double, float]
  · simp only [not_or] at boolean double float
    exact (other ⟨⟨boolean.1, float.1, double.1⟩, boolean.2, float.2, double.2⟩).elim

namespace BinaryOp

variable {op : BinaryOp}

/-- An operator other than a shift works on words that stand for the same integers. -/
theorem apply_of_toInt?
    (plain : op.isShift = false) (known : left.toInt? = some first)
    (known' : right.toInt? = some second) :
    (left.kind.joint right.kind = .int ∧ ∃ word word' : Int32,
      op.apply left right = op.onInts word word' ∧
        word.toInt = first ∧ word'.toInt = second) ∨
    (left.kind.joint right.kind = .long ∧ ∃ word word' : Int64,
      op.apply left right = op.onLongs word word' ∧
        word.toInt = first ∧ word'.toInt = second) := by
  have boolean : ∀ value, left ≠ .boolean value := by
    rintro value rfl
    cases known
  rcases Primitive.promote?_of_toInt? known known' with
    ⟨joint, word, word', promoted, same, same'⟩ | ⟨joint, word, word', promoted, same, same'⟩
  · refine .inl ⟨joint, word, word', ?_, same, same'⟩
    simp [apply, boolean, plain, promoted]
  · refine .inr ⟨joint, word, word', ?_, same, same'⟩
    simp [apply, boolean, plain, promoted]

theorem apply_of_onIntegers
    {exact : Int} (known : left.toInt? = some first) (known' : right.toInt? = some second)
    (computes : op.onIntegers? first second = some exact) :
    op.apply left right = .ok (.wrapped (left.kind.joint right.kind) exact) := by
  have plain := not_isShift_of_onIntegers computes
  rcases apply_of_toInt? plain known known' with
    ⟨joint, word, word', applied, rfl, rfl⟩ | ⟨joint, word, word', applied, rfl, rfl⟩
  · rw [applied, joint]
    exact onInts_of_onWords (onWords?_of_onIntegers word.toBitVec word'.toBitVec computes)
  · rw [applied, joint]
    exact onLongs_of_onWords (onWords?_of_onIntegers word.toBitVec word'.toBitVec computes)

theorem apply_of_verdict
    {verdict : Bool} (known : left.toInt? = some first) (known' : right.toInt? = some second)
    (decided : op.verdict? first second = some verdict) :
    op.apply left right = .ok (.boolean verdict) := by
  have plain := not_isShift_of_verdict decided
  rcases apply_of_toInt? plain known known' with
    ⟨-, word, word', applied, rfl, rfl⟩ | ⟨-, word, word', applied, rfl, rfl⟩
  · exact applied.trans (onInts_of_verdict decided)
  · exact applied.trans (onLongs_of_verdict decided)

/-! ## Division by zero -/

theorem apply_of_zero
    (divides : op = div ∨ op = rem) (known : left.toInt? = some first)
    (zero : right.toInt? = some 0) :
    op.apply left right = .error .divideByZero := by
  have plain : op.isShift = false := by rcases divides with rfl | rfl <;> rfl
  rcases apply_of_toInt? plain known zero with
    ⟨-, word, word', applied, -, none⟩ | ⟨-, word, word', applied, -, none⟩
  · rw [← Int32.toInt_zero, Int32.toInt_inj] at none
    rw [applied, none]
    rcases divides with rfl | rfl <;> rfl
  · rw [← Int64.toInt_zero, Int64.toInt_inj] at none
    rw [applied, none]
    rcases divides with rfl | rfl <;> rfl

/-- An operator other than a shift has a result on integers unless it divides by zero. -/
theorem covers_integers
    (plain : op.isShift = false) (first second : Int) :
    (∃ exact, op.onIntegers? first second = some exact) ∨
      (∃ verdict, op.verdict? first second = some verdict) ∨
        (op = div ∨ op = rem) ∧ second = 0 := by
  cases op with
  | add | sub | mul | and | or | xor => exact .inl ⟨_, rfl⟩
  | eq | ne | lt | le | gt | ge => exact .inr (.inl ⟨_, rfl⟩)
  | div | rem =>
      by_cases zero : second = 0
      · exact .inr (.inr ⟨by simp, zero⟩)
      · exact .inl ⟨_, if_neg zero⟩
  | shl | shr | ushr => cases plain

theorem failsOnly_shift
    (op : BinaryOp) (left right : Primitive) :
    FailsOnly (· = op.mismatch left right) (op.shift left right) := by
  unfold shift
  split
  · exact failsOnly_error rfl
  · exact failsOnly_ok _
  · split
    · exact failsOnly_ok _
    · exact failsOnly_error rfl

theorem failsOnly_apply
    (other : op.isShift = false →
      ¬ (left.kind.isIntegral = true ∧ right.kind.isIntegral = true)) :
    FailsOnly (· = op.mismatch left right) (op.apply left right) := by
  unfold apply
  split
  · split
    · exact failsOnly_ok _
    · exact failsOnly_error rfl
  split
  · exact op.failsOnly_shift left right
  · next plain =>
    rcases Primitive.not_promoted_of_not_integral (other (Bool.eq_false_of_not_eq_true plain))
      with ⟨ints, longs⟩
    split
    · exact failsOnly_error rfl
    · next promoted => exact (ints _ _ promoted).elim
    · next promoted => exact (longs _ _ promoted).elim
    · cases op.onFloats? _ _ with
      | none => exact failsOnly_error rfl
      | some result => exact failsOnly_ok result
    · cases op.onDoubles? _ _ with
      | none => exact failsOnly_error rfl
      | some result => exact failsOnly_ok result

theorem apply_eq_divideByZero_iff :
    op.apply left right = .error .divideByZero ↔
      (op = div ∨ op = rem) ∧ left.kind.isIntegral = true ∧ right.kind.isIntegral = true ∧
        right.toInt? = some 0 := by
  constructor
  · intro failed
    by_cases plain :
        op.isShift = false → ¬ (left.kind.isIntegral = true ∧ right.kind.isIntegral = true)
    · cases failsOnly_apply plain _ failed
    · rw [Classical.not_imp, not_not] at plain
      rcases plain with ⟨plain, integral, integral'⟩
      rcases (Primitive.exists_toInt?_iff left).2 integral with ⟨first, known⟩
      rcases (Primitive.exists_toInt?_iff right).2 integral' with ⟨second, known'⟩
      rcases covers_integers plain first second with
        ⟨exact, computes⟩ | ⟨verdict, decided⟩ | ⟨divides, rfl⟩
      · rw [apply_of_onIntegers known known' computes] at failed
        cases failed
      · rw [apply_of_verdict known known' decided] at failed
        cases failed
      · exact ⟨divides, integral, integral', known'⟩
  · rintro ⟨divides, integral, -, zero⟩
    rcases (Primitive.exists_toInt?_iff left).2 integral with ⟨first, known⟩
    exact apply_of_zero divides known zero

end BinaryOp

end Operands

/-! ## Operators on one value -/

namespace UnaryOp

variable {op : UnaryOp} {operand : Primitive} {number : Int}

/-- The exact result of an operator on one integer. -/
def onInteger? (op : UnaryOp) (number : Int) : Option Int :=
  match op with
  | neg => some (-number)
  | plus => some number
  | bitNot => some number.lnot
  | not => none

/-- An operator on one word of any width. -/
def onWord? {width : Nat} (op : UnaryOp) (word : BitVec width) : Option (BitVec width) :=
  match op with
  | neg => some (-word)
  | plus => some word
  | bitNot => some (~~~word)
  | not => none

theorem onWord?_of_onInteger
    {width : Nat} (word : BitVec width) {exact : Int}
    (computes : op.onInteger? word.toInt = some exact) :
    op.onWord? word = some (BitVec.ofInt width exact) := by
  cases op with
  | neg =>
      cases computes
      rw [BitVec.ofInt_neg, BitVec.ofInt_toInt]
      rfl
  | plus =>
      cases computes
      rw [BitVec.ofInt_toInt]
      rfl
  | bitNot =>
      cases computes
      exact congrArg some (ofInt_lnot word).symm
  | not => cases computes

theorem outcome?_int
    (word : Int32) :
    op.outcome? (.int word) = (op.onWord? word.toBitVec).map fun word => .int (.ofBitVec word) := by
  cases op <;> rfl

theorem outcome?_long
    (word : Int64) :
    op.outcome? (.long word) =
      (op.onWord? word.toBitVec).map fun word => .long (.ofBitVec word) := by
  cases op <;> rfl

/-- An operand that is promoted to `int` is treated as that `int` is. -/
theorem outcome?_of_toIntOperand?
    {word : Int32} (promoted : operand.toIntOperand? = some word) :
    op.outcome? operand = op.outcome? (.int word) := by
  cases operand with
  | byte | char | short | int =>
      cases promoted
      cases op <;> rfl
  | boolean | long | float | double => cases promoted

theorem apply_of_onInteger
    {exact : Int} (known : operand.toInt? = some number)
    (computes : op.onInteger? number = some exact) :
    op.apply operand = .ok (.wrapped operand.kind.promoted exact) := by
  by_cases long : operand.kind = .long
  · cases operand with
    | long word =>
        cases known
        rw [apply, outcome?_long, onWord?_of_onInteger word.toBitVec computes]
        rfl
    | boolean | byte | char | short | int | float | double => cases long
  · rcases Primitive.exists_toIntOperand? known long with ⟨word, promoted, rfl⟩
    rw [apply, outcome?_of_toIntOperand? promoted, outcome?_int,
      onWord?_of_onInteger word.toBitVec computes, PrimitiveKind.promoted_of_ne_long long]
    rfl

end UnaryOp

/-! ## Results -/

/-- The quotient is truncated toward zero, so the remainder has the sign of the dividend. -/
theorem tdiv_tmod
    (first : Int) {second : Int} (nonzero : second ≠ 0) :
    first = first.tdiv second * second + first.tmod second ∧
      (first.tmod second).natAbs < second.natAbs ∧ 0 ≤ first * first.tmod second := by
  refine ⟨?_, ?_, ?_⟩
  · rw [Int.mul_comm, Int.mul_tdiv_add_tmod]
  · rw [Int.natAbs_tmod]
    exact Nat.mod_lt _ (Int.natAbs_pos.2 nonzero)
  · rcases Int.le_total 0 first with positive | negative
    · exact Int.mul_nonneg positive (Int.tmod_nonneg second positive)
    · have opposite := Int.tmod_nonneg second (Int.neg_nonneg_of_nonpos negative)
      rw [Int.neg_tmod] at opposite
      exact Int.mul_nonneg_of_nonpos_of_nonpos negative (Int.nonpos_of_neg_nonneg opposite)

/-- What the operators other than shifts do with values that stand for two integers. -/
structure ComputesIntegers (left right : Primitive) (first second : Int) : Prop where
  /-- The exact result of an arithmetic or a bitwise operator is reduced to the joint width. -/
  computes : ∀ (op : BinaryOp) (exact : Int), op.onIntegers? first second = some exact →
    ∃ result, op.apply left right = .ok result ∧
      result.StandsFor (left.kind.joint right.kind)
        (exact.bmod (2 ^ (left.kind.joint right.kind).bits))
  /-- The quotient is truncated toward zero, and the remainder is what it leaves. -/
  divides : second ≠ 0 → ∃ quotient remainder : Int,
    BinaryOp.div.onIntegers? first second = some quotient ∧
      BinaryOp.rem.onIntegers? first second = some remainder ∧
        first = quotient * second + remainder ∧ remainder.natAbs < second.natAbs ∧
          0 ≤ first * remainder
  /-- The one quotient that does not fit is reduced to the dividend. -/
  overflows : first = (left.kind.joint right.kind).least → second = -1 →
    ∃ quotient remainder, BinaryOp.div.apply left right = .ok quotient ∧
      quotient.StandsFor (left.kind.joint right.kind) first ∧
        BinaryOp.rem.apply left right = .ok remainder ∧
          remainder.StandsFor (left.kind.joint right.kind) 0
  /-- A comparison is one of the exact integers. -/
  compares : ∀ (op : BinaryOp) (verdict : Bool), op.verdict? first second = some verdict →
    op.apply left right = .ok (.boolean verdict)

section Results

variable {left right : Primitive} {first second : Int}

theorem overflows_of_least
    (known : left.toInt? = some first) (known' : right.toInt? = some second)
    (least : first = (left.kind.joint right.kind).least) (negative : second = -1) :
    ∃ quotient remainder, BinaryOp.div.apply left right = .ok quotient ∧
      quotient.StandsFor (left.kind.joint right.kind) first ∧
        BinaryOp.rem.apply left right = .ok remainder ∧
          remainder.StandsFor (left.kind.joint right.kind) 0 := by
  have word := PrimitiveKind.isWord_joint left.kind right.kind
  have quotient : BinaryOp.div.apply left right = .ok (.wrapped _ (first.tdiv second)) :=
    BinaryOp.apply_of_onIntegers known known' (if_neg (by omega))
  have remainder : BinaryOp.rem.apply left right = .ok (.wrapped _ (first.tmod second)) :=
    BinaryOp.apply_of_onIntegers known known' (if_neg (by omega))
  have opposite : (first.tdiv second).bmod (2 ^ (left.kind.joint right.kind).bits) = first := by
    rw [negative, Int.tdiv_neg, Int.tdiv_one, least, word.bmod_neg_least]
  have nothing : (first.tmod second).bmod (2 ^ (left.kind.joint right.kind).bits) = 0 := by
    rw [negative, Int.tmod_neg, Int.tmod_one, Int.zero_bmod]
  have stands := Primitive.standsFor_wrapped word (first.tdiv second)
  have stands' := Primitive.standsFor_wrapped word (first.tmod second)
  rw [opposite] at stands
  rw [nothing] at stands'
  exact ⟨_, _, quotient, stands, remainder, stands'⟩

theorem computesIntegers
    (known : left.toInt? = some first) (known' : right.toInt? = some second) :
    ComputesIntegers left right first second where
  computes _ exact computed :=
    ⟨_, BinaryOp.apply_of_onIntegers known known' computed,
      Primitive.standsFor_wrapped (PrimitiveKind.isWord_joint ..) exact⟩
  divides nonzero := ⟨_, _, if_neg nonzero, if_neg nonzero, tdiv_tmod first nonzero⟩
  overflows := overflows_of_least known known'
  compares _ _ decided := BinaryOp.apply_of_verdict known known' decided

end Results

/--
Operators on values of integral kinds compute with the integers that these stand for, reduced to
the width of the promoted operands, and nothing fails with a division by zero but a division or a
remainder of integers by zero.
-/
theorem integers_are_computed :
    (∀ left right : Primitive, left.kind.isIntegral = true → right.kind.isIntegral = true →
      ∃ first second : Int, left.toInt? = some first ∧ right.toInt? = some second ∧
        ComputesIntegers left right first second) ∧
    (∀ operand : Primitive, operand.kind.isIntegral = true →
      ∃ number : Int, operand.toInt? = some number ∧
        ∀ (op : UnaryOp) (exact : Int), op.onInteger? number = some exact →
          ∃ result, op.apply operand = .ok result ∧
            result.StandsFor operand.kind.promoted (exact.bmod (2 ^ operand.kind.promoted.bits))) ∧
    ∀ (op : BinaryOp) (left right : Primitive),
      op.apply left right = .error .divideByZero ↔
        (op = .div ∨ op = .rem) ∧ left.kind.isIntegral = true ∧ right.kind.isIntegral = true ∧
          right.toInt? = some 0 := by
  refine ⟨?_, ?_, fun _ _ _ => BinaryOp.apply_eq_divideByZero_iff⟩
  · intro left right integral integral'
    rcases (Primitive.exists_toInt?_iff left).2 integral with ⟨first, known⟩
    rcases (Primitive.exists_toInt?_iff right).2 integral' with ⟨second, known'⟩
    exact ⟨first, second, known, known', computesIntegers known known'⟩
  · intro operand integral
    rcases (Primitive.exists_toInt?_iff operand).2 integral with ⟨number, known⟩
    refine ⟨number, known, fun op exact computes => ?_⟩
    exact ⟨_, UnaryOp.apply_of_onInteger known computes,
      Primitive.standsFor_wrapped (PrimitiveKind.isWord_promoted _) exact⟩

/-- The least `long` divided by a `byte`, and the complement of the greatest character. -/
theorem least_long_is_computed :
    (∃ quotient, BinaryOp.div.apply (.long Int64.minValue) (.byte (-1)) = .ok quotient ∧
      quotient.StandsFor .long (-2 ^ 63)) ∧
    ∃ complement, UnaryOp.bitNot.apply (.char 0xffff) = .ok complement ∧
      complement.StandsFor .int (-2 ^ 16) := by
  constructor
  · rcases integers_are_computed.1 (.long Int64.minValue) (.byte (-1)) rfl rfl with
      ⟨_, _, ⟨⟩, ⟨⟩, computed⟩
    rcases computed.overflows rfl rfl with ⟨quotient, _, divided, stands, _⟩
    exact ⟨quotient, divided, stands⟩
  · rcases integers_are_computed.2.1 (.char 0xffff) rfl with ⟨number, known, computed⟩
    have greatest : number = 0xffff := (Option.some_inj.1 known).symm.trans (by decide)
    rw [greatest] at computed
    exact computed .bitNot (-2 ^ 16) (by decide)

end FrameEval
