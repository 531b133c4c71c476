import FrameEval.Proofs.Primitive.Integer

/-!
# Shifts of integers

A shift takes its width and its kind from the left operand alone; of the right operand only the
residue modulo the width counts.  `BinaryOp.shifted?` says in arithmetic what a shift is.  A shift
to the left or one without a sign depends on the bits of the word and reduces its result; a shift
with a sign rounds down and stays within the width.
-/

namespace FrameEval

/-! ## Shifts of words -/

section Words

variable {width : Nat} (word : BitVec width) (distance : Nat)

theorem toInt_shiftLeft :
    (word <<< distance).toInt = (word.toInt * 2 ^ distance).bmod (2 ^ width) := by
  rw [BitVec.toInt_shiftLeft, BitVec.toInt_eq_toNat_bmod, Int.bmod_mul_bmod,
    Nat.shiftLeft_eq, Int.natCast_mul, Int.natCast_pow]
  rfl

/-- A shift with a sign rounds down. -/
theorem toInt_sshiftRight :
    (word.sshiftRight distance).toInt = word.toInt.fdiv (2 ^ distance) := by
  rw [BitVec.toInt_sshiftRight, Int.shiftRight_eq_div_pow, Int.natCast_pow]
  exact (Int.fdiv_eq_ediv_of_nonneg _ (Int.pow_nonneg (by decide))).symm

/-- Modulo the width a word is what it is when it is read without a sign. -/
theorem toInt_emod :
    word.toInt % 2 ^ width = word.toNat := by
  have reduced := Int.bmod_emod (x := word.toNat) (m := 2 ^ width)
  rw [← BitVec.toInt_eq_toNat_bmod, ← Int.natCast_emod, Nat.mod_eq_of_lt word.isLt] at reduced
  exact_mod_cast reduced

/-- A shift without a sign divides what the word is when it is read without one. -/
theorem toInt_ushiftRight :
    (word >>> distance).toInt =
      (word.toInt % 2 ^ width / 2 ^ distance).bmod (2 ^ width) := by
  rw [toInt_emod, BitVec.toInt_eq_toNat_bmod, BitVec.toNat_ushiftRight,
    Nat.shiftRight_eq_div_pow, Int.natCast_ediv, Int.natCast_pow]
  rfl

end Words

namespace BinaryOp

/-- A shift of an integer of a width by a distance below the width. -/
def shifted? (op : BinaryOp) (width : Nat) (number : Int) (distance : Nat) : Option Int :=
  match op with
  | shl => some ((number * 2 ^ distance).bmod (2 ^ width))
  | shr => some (number.fdiv (2 ^ distance))
  | ushr => some ((number % 2 ^ width / 2 ^ distance).bmod (2 ^ width))
  | _ => none

variable {op : BinaryOp} {distance : Nat} {shifted : Int}

/-! ## Distances -/

/-- A distance below the width is not reduced again. -/
theorem toNat_smod_32 : ∀ distance < 32,
    ((BitVec.ofNat 32 distance).smod 32).toNat = distance := by
  decide

theorem toNat_smod_64 : ∀ distance < 64,
    ((BitVec.ofNat 64 distance).smod 64).toNat = distance := by
  decide

theorem toNat_umod_32 : ∀ distance < 32,
    (BitVec.ofNat 32 distance % 32).toNat = distance := by
  decide

theorem toNat_umod_64 : ∀ distance < 64,
    (BitVec.ofNat 64 distance % 64).toNat = distance := by
  decide

theorem toInt_shiftInt
    (value : Int32) (within : distance < 32)
    (shifts : op.shifted? 32 value.toInt distance = some shifted) :
    (op.shiftInt value (Int32.ofInt distance)).toInt = shifted := by
  cases op with
  | shl =>
      cases shifts
      refine Eq.trans ?_ (toInt_shiftLeft value.toBitVec distance)
      exact congrArg (fun places => (value.toBitVec <<< places).toInt) (toNat_smod_32 _ within)
  | shr =>
      cases shifts
      refine Eq.trans ?_ (toInt_sshiftRight value.toBitVec distance)
      exact congrArg (fun places => (value.toBitVec.sshiftRight places).toInt)
        (toNat_smod_32 _ within)
  | ushr =>
      cases shifts
      refine Eq.trans ?_ (toInt_ushiftRight value.toBitVec distance)
      exact congrArg (fun places => (value.toBitVec >>> places).toInt) (toNat_umod_32 _ within)
  | add | sub | mul | div | rem | and | or | xor | eq | ne | lt | le | gt | ge => cases shifts

theorem toInt_shiftLong
    (value : Int64) (within : distance < 64)
    (shifts : op.shifted? 64 value.toInt distance = some shifted) :
    (op.shiftLong value (Int64.ofInt distance)).toInt = shifted := by
  cases op with
  | shl =>
      cases shifts
      refine Eq.trans ?_ (toInt_shiftLeft value.toBitVec distance)
      exact congrArg (fun places => (value.toBitVec <<< places).toInt) (toNat_smod_64 _ within)
  | shr =>
      cases shifts
      refine Eq.trans ?_ (toInt_sshiftRight value.toBitVec distance)
      exact congrArg (fun places => (value.toBitVec.sshiftRight places).toInt)
        (toNat_smod_64 _ within)
  | ushr =>
      cases shifts
      refine Eq.trans ?_ (toInt_ushiftRight value.toBitVec distance)
      exact congrArg (fun places => (value.toBitVec >>> places).toInt) (toNat_umod_64 _ within)
  | add | sub | mul | div | rem | and | or | xor | eq | ne | lt | le | gt | ge => cases shifts

/-! ## Shifts of values -/

section Operands

variable {left right : Primitive} {first second : Int}

/-- What is left of a distance modulo a width is a natural number below the width. -/
theorem toNat_distance
    (second : Int) (width : Nat) (positive : 0 < width) :
    (second % width).toNat < width ∧ ((second % width).toNat : Int) = second % width := by
  have least := Int.emod_nonneg second (Int.natCast_ne_zero.2 (Nat.ne_of_gt positive))
  have most := Int.emod_lt_of_pos second (Int.natCast_pos.2 positive)
  omega

theorem shift_long
    (value : Int64) (known : right.toInt? = some second) :
    op.shift (.long value) right =
      .ok (.long (op.shiftLong value (Int64.ofInt (second % 64)))) := by
  simp only [shift, known]

theorem shift_of_toIntOperand?
    {value : Int32} (promoted : left.toIntOperand? = some value)
    (known : right.toInt? = some second) :
    op.shift left right = .ok (.int (op.shiftInt value (Int32.ofInt (second % 32)))) := by
  cases left with
  | byte | char | short | int => simp only [shift, known, promoted]
  | boolean | long | float | double => cases promoted

/-- The width and the kind are those to which the left operand is promoted on its own. -/
theorem shift_of_shifted
    (known : left.toInt? = some first) (known' : right.toInt? = some second)
    (shifts : op.shifted? left.kind.promoted.bits first
      (second % left.kind.promoted.bits).toNat = some shifted) :
    ∃ result, op.shift left right = .ok result ∧
      result.StandsFor left.kind.promoted shifted := by
  by_cases long : left.kind = .long
  · cases left with
    | long value =>
        cases known
        rcases toNat_distance second 64 (by decide) with ⟨within, same⟩
        have shifted := toInt_shiftLong value within shifts
        rw [same] at shifted
        exact ⟨_, shift_long value known', rfl, congrArg some shifted⟩
    | boolean | byte | char | short | int | float | double => cases long
  · rcases Primitive.exists_toIntOperand? known long with ⟨value, promoted, rfl⟩
    rw [PrimitiveKind.promoted_of_ne_long long] at shifts ⊢
    rcases toNat_distance second 32 (by decide) with ⟨within, same⟩
    have shifted := toInt_shiftInt value within shifts
    rw [same] at shifted
    exact ⟨_, shift_of_toIntOperand? promoted known', rfl, congrArg some shifted⟩

/-- There is no shift of a value that is no integer, or by one. -/
theorem shift_of_not_integral
    (op : BinaryOp)
    (other : ¬ (left.kind.isIntegral = true ∧ right.kind.isIntegral = true)) :
    op.shift left right = .error (op.mismatch left right) := by
  simp only [← Primitive.exists_toInt?_iff] at other
  cases known : right.toInt? with
  | none => simp only [shift, known]
  | some second =>
      cases left with
      | boolean | float | double => simp only [shift, known, Primitive.toIntOperand?]
      | byte | char | short | int | long => exact (other ⟨⟨_, rfl⟩, second, known⟩).elim

theorem apply_of_isShift
    (shifts : op.isShift = true) : op.apply left right = op.shift left right := by
  unfold apply
  split
  · cases op <;> first
      | rfl
      | cases shifts
  · exact if_pos shifts

theorem isShift_of_shifted
    {width : Nat} (shifts : op.shifted? width first distance = some shifted) :
    op.isShift = true := by
  cases op <;> first
    | rfl
    | cases shifts

end Operands

end BinaryOp

/--
A shift of integers has the width and the kind of the promoted left operand, and its distance is
the right operand modulo that width.  Other operands cannot be shifted, nor be distances.
-/
theorem shifts_follow_left_operand :
    (∀ left right : Primitive, left.kind.isIntegral = true → right.kind.isIntegral = true →
      ∃ first second : Int, left.toInt? = some first ∧ right.toInt? = some second ∧
        ∀ (op : BinaryOp) (shifted : Int),
          op.shifted? left.kind.promoted.bits first
              (second % left.kind.promoted.bits).toNat = some shifted →
            ∃ result, op.apply left right = .ok result ∧
              result.StandsFor left.kind.promoted shifted) ∧
    ∀ (op : BinaryOp) (left right : Primitive), op.isShift = true →
      ¬ (left.kind.isIntegral = true ∧ right.kind.isIntegral = true) →
        op.apply left right = .error (.typeMismatch
          s!"operator {op.symbol} cannot be applied to {left.kind.name}, {right.kind.name}") := by
  constructor
  · intro left right integral integral'
    rcases (Primitive.exists_toInt?_iff left).2 integral with ⟨first, known⟩
    rcases (Primitive.exists_toInt?_iff right).2 integral' with ⟨second, known'⟩
    refine ⟨first, second, known, known', fun op shifted shifts => ?_⟩
    rw [BinaryOp.apply_of_isShift (BinaryOp.isShift_of_shifted shifts)]
    exact BinaryOp.shift_of_shifted known known' shifts
  · intro op left right shifts other
    rw [BinaryOp.apply_of_isShift shifts]
    exact op.shift_of_not_integral other

/-- A negative `byte` shifted without its sign by a negative `long`, and a shift by a boolean. -/
theorem byte_is_shifted :
    (∃ result, BinaryOp.ushr.apply (.byte (-1)) (.long (-1)) = .ok result ∧
      result.StandsFor .int 1) ∧
    BinaryOp.shl.apply (.long 1) (.boolean true) =
      .error (.typeMismatch "operator << cannot be applied to long, boolean") := by
  constructor
  · rcases shifts_follow_left_operand.1 (.byte (-1)) (.long (-1)) rfl rfl with
      ⟨first, second, known, known', shifts⟩
    have negative : first = -1 := (Option.some_inj.1 known).symm.trans (by decide)
    have negative' : second = -1 := (Option.some_inj.1 known').symm.trans (by decide)
    rw [negative, negative'] at shifts
    exact shifts .ushr 1 (by decide)
  · exact shifts_follow_left_operand.2 .shl (.long 1) (.boolean true) rfl (by decide)

end FrameEval
