import FrameEval.Text.Numeral
import Mathlib.Data.List.Forall2
import Mathlib.Data.Nat.Digits.Defs

/-!
# Numerals and their numbers

Digits of a base write a number, the first of them counting most: `Writes` says so by the sum of
all digits, each times a power of the base.  Reading goes from the left and keeps one number.  It
accepts exactly the rows of digits, after at most one plus sign, and reads the number that they
write.  A word is read exactly from the numerals of its number, so none is read from a numeral of
a number beyond all words.
-/

namespace FrameEval.Text

variable {base number other start digit : ℕ} {letter : Char} {letters : List Char}

/-- A letter stands for a digit below the base; from ten on digits have letters of both cases. -/
def IsDigit (base : ℕ) (letter : Char) (digit : ℕ) : Prop :=
  digit < base ∧ (letter = digit.digitChar ∨ letter = digit.digitChar.toUpper)

/-- Letters write a number: it is the sum of the digits, each times a power of the base. -/
def Writes (base : ℕ) (letters : List Char) (number : ℕ) : Prop :=
  ∃ digits, List.Forall₂ (IsDigit base) letters digits ∧ number = Nat.ofDigits base digits.reverse

/-- At least one digit, after at most one plus sign. -/
inductive IsNumeral (base : ℕ) : List Char → ℕ → Prop where
  | plain {letters : List Char} {number : ℕ} (some : letters ≠ [])
      (writes : Writes base letters number) : IsNumeral base letters number
  | signed {letters : List Char} {number : ℕ} (some : letters ≠ [])
      (writes : Writes base letters number) : IsNumeral base ('+' :: letters) number

/-! ## The digits of a number -/

theorem writes_digitChar (below : digit < base) : Writes base [digit.digitChar] digit :=
  ⟨[digit], .cons ⟨below, .inl rfl⟩ .nil, Nat.ofDigits_singleton.symm⟩

/-- One more digit counts least. -/
theorem Writes.concat
    (writes : Writes base letters number) (isDigit : IsDigit base letter digit) :
    Writes base (letters ++ [letter]) (base * number + digit) := by
  obtain ⟨digits, spelled, rfl⟩ := writes
  refine ⟨digits ++ [digit], List.rel_append spelled (.cons isDigit .nil), ?_⟩
  rw [List.reverse_append, List.reverse_singleton, List.singleton_append, Nat.ofDigits_cons]
  exact Nat.add_comm _ _

/-- The digits of a number write it. -/
theorem writes_toDigits (several : 1 < base) (number : ℕ) :
    Writes base (Nat.toDigits base number) number := by
  induction number using Nat.strong_induction_on with
  | _ number ih =>
      by_cases single : number < base
      · rw [Nat.toDigits_of_lt_base single]
        exact writes_digitChar single
      · have least := Nat.not_lt.1 single
        have front := ih (number / base) (Nat.div_lt_self (by omega) several)
        have whole := front.concat ⟨Nat.mod_lt number (by omega), .inl rfl⟩
        rwa [Nat.div_add_mod, ← Nat.toDigits_of_base_le several least] at whole

theorem isNumeral_toDigits (several : 1 < base) (number : ℕ) :
    IsNumeral base (Nat.toDigits base number) number :=
  .plain Nat.toDigits_ne_nil (writes_toDigits several number)

/-! ## Reading -/

/-- A letter of a range is told by its distance from the first one. -/
theorem eq_of_range
    {first : Char} {count : ℕ} {range : ℕ → Char}
    (places : ∀ place < count, Char.ofNat (first.toNat + place) = range place)
    (least : first ≤ letter) (near : letter.toNat - first.toNat < count) :
    letter = range (letter.toNat - first.toNat) := by
  have bound : first.toNat ≤ letter.toNat := least
  rw [← places _ near, Nat.add_sub_cancel' bound, Char.ofNat_toNat]

section

variable (small : base ≤ 16)

include small

theorem isDigit_of_digitValue?
    (read : digitValue? base letter = some digit) : IsDigit base letter digit := by
  simp only [digitValue?, Option.ite_none_right_eq_some, Option.some.injEq] at read
  obtain ⟨below, rfl⟩ := read
  refine ⟨below, ?_⟩
  have decimal : ∀ place < 10, Char.ofNat ('0'.toNat + place) = place.digitChar := by decide
  have lower : ∀ place < 6, Char.ofNat ('a'.toNat + place) = (place + 10).digitChar := by decide
  have upper : ∀ place < 6,
      Char.ofNat ('A'.toNat + place) = (place + 10).digitChar.toUpper := by decide
  split_ifs at below ⊢ with isDecimal isLower isUpper
  · have greatest : letter.toNat ≤ '0'.toNat + 9 := isDecimal.2
    exact .inl (eq_of_range decimal isDecimal.1 (by omega))
  · have same := eq_of_range lower isLower.1 (by omega)
    exact .inl same
  · have same := eq_of_range upper isUpper.1 (by omega)
    exact .inr same
  · exact absurd below (Nat.lt_irrefl base)

/-- The value of a letter is the digit that it stands for. -/
theorem digitValue?_eq_some_iff :
    digitValue? base letter = some digit ↔ IsDigit base letter digit := by
  refine ⟨isDigit_of_digitValue? small, ?_⟩
  have each : ∀ base : Fin 17, ∀ digit : Fin 16, digit.val < base.val →
      digitValue? base digit.val.digitChar = some digit.val ∧
        digitValue? base digit.val.digitChar.toUpper = some digit.val := by
    decide
  rintro ⟨below, rfl | rfl⟩
  · exact (each ⟨base, by omega⟩ ⟨digit, by omega⟩ below).1
  · exact (each ⟨base, by omega⟩ ⟨digit, by omega⟩ below).2

/-- What is read from digits is the number that they write, with what was read before them counting
more than all of them. -/
theorem readDigits?_eq_some_iff :
    readDigits? base start letters = some number ↔
      ∃ digits, List.Forall₂ (IsDigit base) letters digits ∧
        number = Nat.ofDigits base digits.reverse + base ^ digits.length * start := by
  induction letters generalizing start with
  | nil => simp [readDigits?, eq_comm]
  | cons letter letters ih =>
      simp only [readDigits?, Option.bind_eq_bind, Option.bind_eq_some_iff, ih,
        digitValue?_eq_some_iff small, List.forall₂_cons_left_iff]
      -- The same digits on both sides: the first one is moved from the row to the start, or back.
      constructor
      · rintro ⟨digit, isDigit, digits, spelled, rfl⟩
        refine ⟨digit :: digits, ⟨digit, digits, isDigit, spelled, rfl⟩, ?_⟩
        rw [Nat.ofDigits_reverse_cons, List.length_cons]
        ring
      · rintro ⟨_, ⟨digit, digits, isDigit, spelled, rfl⟩, rfl⟩
        refine ⟨digit, isDigit, digits, spelled, ?_⟩
        rw [Nat.ofDigits_reverse_cons, List.length_cons]
        ring

theorem readDigits?_zero_eq_some_iff :
    readDigits? base 0 letters = some number ↔ Writes base letters number := by
  simp only [readDigits?_eq_some_iff small, Writes, Nat.mul_zero, Nat.add_zero]

/-- A plus sign writes nothing. -/
theorem not_writes_plus : ¬ Writes base ('+' :: letters) number := by
  intro writes
  have each : ∀ base : Fin 17, digitValue? base '+' = none := by decide
  have read := (readDigits?_zero_eq_some_iff small).2 writes
  rw [readDigits?, each ⟨base, by omega⟩] at read
  cases read

/-- Exactly the numerals are read. -/
theorem readNumeral?_eq_some_iff :
    readNumeral? base letters = some number ↔ IsNumeral base letters number := by
  constructor
  · intro read
    unfold readNumeral? at read
    split at read
    · exact .signed (List.cons_ne_nil _ _) ((readDigits?_zero_eq_some_iff small).1 read)
    · exact .plain (List.cons_ne_nil _ _) ((readDigits?_zero_eq_some_iff small).1 read)
    · cases read
  · intro numeral
    cases numeral with
    | plain some writes =>
        obtain ⟨letter, letters, rfl⟩ := List.exists_cons_of_ne_nil some
        have unsigned : letter ≠ '+' := by
          rintro rfl
          exact not_writes_plus small writes
        have read := (readDigits?_zero_eq_some_iff small).2 writes
        rw [← read, readNumeral?]
        intro _ _ sign
        exact (unsigned sign).elim
    | signed some writes =>
        obtain ⟨letter, letters, rfl⟩ := List.exists_cons_of_ne_nil some
        exact (readDigits?_zero_eq_some_iff small).2 writes

/-- No letters are numerals of two numbers. -/
theorem IsNumeral.unique
    (numeral : IsNumeral base letters number) (numeral' : IsNumeral base letters other) :
    number = other := by
  rw [← readNumeral?_eq_some_iff small] at numeral numeral'
  exact Option.some.inj (numeral.symm.trans numeral')

/-- A word is read exactly from the numerals of its number. -/
theorem readWord?_eq_some_iff {word : UInt64} :
    readWord? base letters = some word ↔ IsNumeral base letters word.toNat := by
  simp only [readWord?, Option.bind_eq_bind, Option.bind_eq_some_iff,
    readNumeral?_eq_some_iff small, Option.ite_none_right_eq_some, Option.some.injEq]
  constructor
  · rintro ⟨number, numeral, fits, rfl⟩
    rwa [UInt64.toNat_ofNat_of_lt' fits]
  · intro numeral
    exact ⟨word.toNat, numeral, word.toNat_lt, UInt64.ofNat_toNat⟩

end

end FrameEval.Text
