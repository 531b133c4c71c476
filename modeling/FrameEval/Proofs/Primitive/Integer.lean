import FrameEval.Primitive.Operator
import Mathlib.Algebra.Order.Group.Unbundled.Int
import Mathlib.Data.Int.ModEq

/-!
# Primitives as integers

A value of an integral kind stands for an integer, `Primitive.toInt?`.  The integers of a kind are
as many consecutive ones as its width allows, from `PrimitiveKind.least` on; so a kind and an
integer modulo the width determine a value.  `Primitive.wrapped` is that value.

Integers are computed in two kinds only, to which the others are promoted: an operand on its own,
or two of them together.  Promotion keeps the integer.
-/

namespace FrameEval

namespace PrimitiveKind

/-- How many bits the values of a kind have. -/
def bits : PrimitiveKind → Nat
  | boolean => 1
  | byte => 8
  | char => 16
  | short => 16
  | int => 32
  | long => 64
  | float => 32
  | double => 64

/-- The least integer of an integral kind; only characters are unsigned. -/
def least : PrimitiveKind → Int
  | char => 0
  | kind => -2 ^ (kind.bits - 1)

/-- An integer is one of those that an integral kind has. -/
def Covers (kind : PrimitiveKind) (number : Int) : Prop :=
  kind.least ≤ number ∧ number < kind.least + 2 ^ kind.bits

theorem isIntegral_iff
    (kind : PrimitiveKind) :
    kind.isIntegral = true ↔ kind ≠ boolean ∧ kind ≠ float ∧ kind ≠ double := by
  cases kind <;> decide

/-- The integers of a kind are apart modulo its width. -/
theorem Covers.eq_of_modEq
    {kind : PrimitiveKind} {number other : Int} (covers : kind.Covers number)
    (covers' : kind.Covers other) (congruent : number ≡ other [ZMOD 2 ^ kind.bits]) :
    number = other := by
  unfold Covers at covers covers'
  have near : |other - number| < 2 ^ kind.bits := abs_lt.2 (by omega)
  have same := Int.eq_zero_of_abs_lt_dvd congruent.dvd near
  omega

/-- A kind has every integer of the kinds that widen to it. -/
theorem Covers.widened
    {kind target : PrimitiveKind} {number : Int} (covers : kind.Covers number)
    (wider : kind.widensTo target = true) (integral : target.isIntegral = true) :
    target.Covers number := by
  cases kind <;> cases target <;>
    simp_all [Covers, least, bits, widensTo, isIntegral] <;> omega

/-! ## Promotion -/

/-- The kind in which an operand is computed that is promoted on its own. -/
def promoted : PrimitiveKind → PrimitiveKind
  | long => long
  | _ => int

theorem promoted_of_ne_long
    {kind : PrimitiveKind} (short : kind ≠ long) : kind.promoted = int := by
  revert short
  cases kind <;> simp [promoted]

/-- The kind in which two operands are computed together. -/
def joint (left right : PrimitiveKind) : PrimitiveKind :=
  if left = long ∨ right = long then long else int

/-- The two kinds in which integers are computed. -/
def IsWord (kind : PrimitiveKind) : Prop :=
  kind = int ∨ kind = long

theorem IsWord.bmod_neg_least
    {kind : PrimitiveKind} (word : kind.IsWord) :
    (-kind.least).bmod (2 ^ kind.bits) = kind.least := by
  rcases word with rfl | rfl <;> decide

theorem isWord_promoted (kind : PrimitiveKind) : kind.promoted.IsWord := by
  cases kind <;> first
    | exact .inl rfl
    | exact .inr rfl

theorem isWord_joint (left right : PrimitiveKind) : (left.joint right).IsWord := by
  unfold joint
  split
  · exact .inr rfl
  · exact .inl rfl

theorem joint_comm (left right : PrimitiveKind) : left.joint right = right.joint left := by
  simp only [joint, or_comm]

theorem Covers.joint
    {kind : PrimitiveKind} {number : Int} (covers : kind.Covers number)
    (integral : kind.isIntegral = true) (other : PrimitiveKind) :
    (kind.joint other).Covers number := by
  unfold PrimitiveKind.joint
  split
  · refine covers.widened ?_ rfl
    cases kind <;> simp_all [isIntegral, widensTo]
  · refine covers.widened ?_ rfl
    cases kind <;> simp_all [isIntegral, widensTo]

end PrimitiveKind

namespace Primitive

/-- A value of a kind that stands for an integer. -/
def StandsFor (value : Primitive) (kind : PrimitiveKind) (number : Int) : Prop :=
  value.kind = kind ∧ value.toInt? = some number

theorem exists_toInt?_iff
    (value : Primitive) :
    (∃ number, value.toInt? = some number) ↔ value.kind.isIntegral = true := by
  cases value <;> simp [toInt?, kind, PrimitiveKind.isIntegral]

theorem covers_of_toInt?
    {value : Primitive} {number : Int} (known : value.toInt? = some number) :
    value.kind.Covers number := by
  cases value with
  | byte value | short value | int value | long value =>
      cases known
      have least := value.le_toInt
      have most := value.toInt_lt
      simp only [kind, PrimitiveKind.Covers, PrimitiveKind.least, PrimitiveKind.bits]
      omega
  | char value =>
      cases known
      have most := value.toNat_lt
      simp only [kind, PrimitiveKind.Covers, PrimitiveKind.least, PrimitiveKind.bits]
      omega
  | boolean | float | double => cases known

/-- An integer that fits 32 bits is promoted on its own to itself. -/
theorem exists_toIntOperand?
    {value : Primitive} {number : Int} (known : value.toInt? = some number)
    (short : value.kind ≠ .long) :
    ∃ word : Int32, value.toIntOperand? = some word ∧ word.toInt = number := by
  have covers := covers_of_toInt? known
  cases value with
  | byte value | char value | short value =>
      cases known
      simp only [kind, PrimitiveKind.Covers, PrimitiveKind.least, PrimitiveKind.bits] at covers
      exact ⟨_, rfl, Int32.toInt_ofInt_of_le (by omega) (by omega)⟩
  | int value =>
      cases known
      exact ⟨value, rfl, rfl⟩
  | long => exact (short rfl).elim
  | boolean | float | double => cases known

/-! ## Reduction to a width -/

/-- The value of an integral kind for an integer, reduced to the width of the kind. -/
def wrapped : PrimitiveKind → Int → Primitive
  | .byte, number => byte (Int8.ofInt number)
  | .char, number => char (UInt16.ofInt number)
  | .short, number => short (Int16.ofInt number)
  | .int, number => int (Int32.ofInt number)
  | .long, number => long (Int64.ofInt number)
  | kind, _ => default kind

@[simp]
theorem kind_wrapped (kind : PrimitiveKind) (number : Int) : (wrapped kind number).kind = kind := by
  cases kind <;> rfl

theorem toNat_ofInt (number : Int) : ((UInt16.ofInt number).toNat : Int) = number % 2 ^ 16 := by
  have reduced : (UInt16.ofInt number).toNat = (number % 2 ^ 16).toNat % 2 ^ 16 := rfl
  omega

theorem bmod_modEq (number : Int) (modulus : Nat) : number.bmod modulus ≡ number [ZMOD modulus] :=
  Int.bmod_emod

theorem exists_toInt?_wrapped
    {kind : PrimitiveKind} (integral : kind.isIntegral = true) (number : Int) :
    ∃ held, (wrapped kind number).toInt? = some held ∧ held ≡ number [ZMOD 2 ^ kind.bits] := by
  cases kind with
  | byte => exact ⟨_, congrArg some Int8.toInt_ofInt, bmod_modEq _ _⟩
  | char => exact ⟨_, congrArg some (toNat_ofInt number), Int.mod_modEq _ _⟩
  | short => exact ⟨_, congrArg some Int16.toInt_ofInt, bmod_modEq _ _⟩
  | int => exact ⟨_, congrArg some Int32.toInt_ofInt, bmod_modEq _ _⟩
  | long => exact ⟨_, congrArg some Int64.toInt_ofInt, bmod_modEq _ _⟩
  | boolean | float | double => cases integral

/-- Reduced to a width with a sign, an integer is one in two's complement. -/
theorem standsFor_wrapped
    {kind : PrimitiveKind} (word : kind.IsWord) (number : Int) :
    (wrapped kind number).StandsFor kind (number.bmod (2 ^ kind.bits)) := by
  rcases word with rfl | rfl
  · exact ⟨rfl, congrArg some Int32.toInt_ofInt⟩
  · exact ⟨rfl, congrArg some Int64.toInt_ofInt⟩

/-- An integer that the kind has is not changed. -/
theorem toInt?_wrapped
    {kind : PrimitiveKind} {number : Int} (integral : kind.isIntegral = true)
    (covers : kind.Covers number) : (wrapped kind number).toInt? = some number := by
  rcases exists_toInt?_wrapped integral number with ⟨held, known, congruent⟩
  have covers' := covers_of_toInt? known
  rw [kind_wrapped] at covers'
  rw [known, covers'.eq_of_modEq covers congruent]

/-- The value for the integer that a value stands for is that value. -/
theorem wrapped_of_toInt?
    {value : Primitive} {number : Int} (known : value.toInt? = some number) :
    wrapped value.kind number = value := by
  cases value with
  | byte value | short value | int value | long value =>
      cases known
      simp [wrapped, kind]
  | char value =>
      cases known
      have most := value.toNat_lt
      refine congrArg char (UInt16.toNat_inj.1 ?_)
      have reduced := toNat_ofInt value.toNat
      omega
  | boolean | float | double => cases known

/-- Congruent integers have one value of a kind. -/
theorem eq_of_modEq
    {first second : Primitive} {number other : Int} (same : first.kind = second.kind)
    (known : first.toInt? = some number) (known' : second.toInt? = some other)
    (congruent : number ≡ other [ZMOD 2 ^ first.kind.bits]) :
    first = second := by
  have covers := covers_of_toInt? known'
  rw [← same] at covers
  rw [← wrapped_of_toInt? known, ← wrapped_of_toInt? known', same,
    (covers_of_toInt? known).eq_of_modEq covers congruent]

end Primitive

end FrameEval
