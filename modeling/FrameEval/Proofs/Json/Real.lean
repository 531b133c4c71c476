import FrameEval.Json.Printer
import FrameEval.Proofs.Binary.Shortest

/-!
# The texts of reals

The text of a decimal number, be it positional or with an exponent, stands for that number: its
digits are those of the significand, and point and exponent together say where they are.  Since
the shortest digits tell finite words apart, so do the texts.
-/

namespace FrameEval.Json

open Binary

/-! ## Reading digits, a point and an exponent -/

/-- The number after the letter of an exponent. -/
def shiftValue : List Char → ℤ
  | '-' :: digits => -(Nat.ofDigitChars 10 digits 0 : ℤ)
  | '+' :: digits => Nat.ofDigitChars 10 digits 0
  | _ => 0

/-- The number that digits, perhaps with a point and an exponent, stand for. -/
def realValue (letters : List Char) : ℚ :=
  let mantissa := letters.takeWhile (· ≠ 'e')
  let shift := shiftValue ((letters.dropWhile (· ≠ 'e')).drop 1)
  let whole := mantissa.takeWhile (· ≠ '.')
  let fraction := (mantissa.dropWhile (· ≠ '.')).drop 1
  Nat.ofDigitChars 10 (whole ++ fraction) 0 * 10 ^ (shift - fraction.length)

/-- The digits of a number stand for it. -/
theorem ofDigitChars_toDigits (number : ℕ) :
    Nat.ofDigitChars 10 (Nat.toDigits 10 number) 0 = number :=
  Nat.ofDigitChars_toDigits (by decide) (by decide)

theorem toList_toString (number : ℕ) : (toString number).toList = Nat.toDigits 10 number := by
  rw [Nat.toString_eq_repr, Nat.repr_eq_ofList_toDigits, String.toList_ofList]

/-- Whether there are only digits. -/
def AllDigits (letters : List Char) : Prop :=
  ∀ letter ∈ letters, letter.isDigit = true

theorem allDigits_toDigits (number : ℕ) : AllDigits (Nat.toDigits 10 number) :=
  fun _ member => Nat.isDigit_of_mem_toDigits (by decide) (by decide) member

theorem AllDigits.append
    {first second : List Char} (digits : AllDigits first) (digits' : AllDigits second) :
    AllDigits (first ++ second) := by
  intro letter member
  rcases List.mem_append.1 member with member | member
  · exact digits letter member
  · exact digits' letter member

theorem allDigits_zeros (count : ℕ) : AllDigits (List.replicate count '0') := by
  intro letter member
  rw [List.eq_of_mem_replicate member]
  rfl

theorem AllDigits.ne {letters : List Char} (digits : AllDigits letters) {letter mark : Char}
    (member : letter ∈ letters) (isMark : mark.isDigit = false) : letter ≠ mark := by
  rintro rfl
  rw [digits letter member] at isMark
  cases isMark

/-- A text is cut before the first letter of another sort. -/
theorem cut_where
    {sort : Char → Bool} {front rest : List Char} (clear : ∀ letter ∈ front, sort letter = true)
    (ends : rest = [] ∨ ∃ mark more, rest = mark :: more ∧ sort mark = false) :
    (front ++ rest).takeWhile sort = front ∧ (front ++ rest).dropWhile sort = rest := by
  rw [List.takeWhile_append_of_pos clear, List.dropWhile_append_of_pos clear]
  rcases ends with rfl | ⟨mark, more, rfl, other⟩
  · simp
  · simp [other]

/-- A text is cut at the first mark. -/
theorem cut_at
    {mark : Char} {front rest : List Char} (clear : ∀ letter ∈ front, letter ≠ mark)
    (ends : rest = [] ∨ ∃ more, rest = mark :: more) :
    (front ++ rest).takeWhile (· ≠ mark) = front ∧
      (front ++ rest).dropWhile (· ≠ mark) = rest := by
  apply cut_where (fun letter member => decide_eq_true (clear letter member))
  apply ends.imp_right
  rintro ⟨more, rfl⟩
  exact ⟨mark, more, rfl, decide_eq_false (not_not_intro rfl)⟩

/-! ## Numerals -/

/-- Whether a letter occurs in the text of a number. -/
def Numeric (letter : Char) : Prop :=
  letter.isDigit = true ∨ letter ∈ ['-', '+', '.', 'e']

instance (letter : Char) : Decidable (Numeric letter) :=
  inferInstanceAs (Decidable (_ ∨ _))

theorem AllDigits.numeric {letters : List Char} (digits : AllDigits letters) :
    ∀ letter ∈ letters, Numeric letter :=
  fun letter member => .inl (digits letter member)

/-- The exponent behind its letter. -/
def shiftText (shift : ℤ) : List Char :=
  (if shift < 0 then '-' else '+') :: Nat.toDigits 10 shift.natAbs

theorem shiftValue_shiftText (shift : ℤ) : shiftValue (shiftText shift) = shift := by
  rw [shiftText]
  split
  · next negative =>
      rw [shiftValue, ofDigitChars_toDigits]
      omega
  · next positive =>
      rw [shiftValue, ofDigitChars_toDigits]
      omega

theorem numeric_shiftText (shift : ℤ) : ∀ letter ∈ shiftText shift, Numeric letter := by
  intro letter member
  rcases List.mem_cons.1 member with rfl | member
  · split <;> exact .inr (by decide)
  · exact (allDigits_toDigits _).numeric letter member

/-- The part of a numeral from the letter of its exponent on, if it has one. -/
def exponentText : Option ℤ → List Char
  | none => []
  | some shift => 'e' :: shiftText shift

theorem numeric_exponentText (shift : Option ℤ) :
    ∀ letter ∈ exponentText shift, Numeric letter := by
  cases shift with
  | none => exact fun _ member => (List.not_mem_nil member).elim
  | some shift =>
      intro letter member
      rcases List.mem_cons.1 member with rfl | member
      · exact .inr (by decide)
      · exact numeric_shiftText shift letter member

theorem exponentText_ends (shift : Option ℤ) :
    exponentText shift = [] ∨ ∃ more, exponentText shift = 'e' :: more := by
  cases shift with
  | none => exact .inl rfl
  | some shift => exact .inr ⟨_, rfl⟩

theorem shiftValue_exponentText (shift : Option ℤ) :
    shiftValue ((exponentText shift).drop 1) = shift.getD 0 := by
  cases shift with
  | none => rfl
  | some shift => exact shiftValue_shiftText shift

/-- A text that stands for a number that is not written as an integer. -/
structure Denotes (letters : List Char) (number : ℚ) : Prop where
  starts : ∃ first rest, letters = first :: rest ∧ first.isDigit = true
  numeric : ∀ letter ∈ letters, Numeric letter
  /-- There is a point or an exponent. -/
  marked : ∃ letter ∈ letters, letter.isDigit = false
  value : realValue letters = number

/-- A sign is not part of it. -/
theorem Denotes.ne_signed {letters more : List Char} {number : ℚ}
    (denotes : Denotes letters number) : letters ≠ '-' :: more := by
  rintro rfl
  rcases denotes.starts with ⟨first, rest, text, digit⟩
  cases text
  exact absurd digit (by decide)

/-- What begins with a digit and has a mark behind the first ones. -/
theorem denotes_of_mark
    {whole rest : List Char} {mark : Char} {number : ℚ}
    (digits : AllDigits whole) (several : whole ≠ []) (isMark : mark ∈ ['.', 'e'])
    (numeric : ∀ letter ∈ rest, Numeric letter)
    (value : realValue (whole ++ mark :: rest) = number) :
    Denotes (whole ++ mark :: rest) number where
  starts := by
    rcases List.exists_cons_of_ne_nil several with ⟨first, more, rfl⟩
    exact ⟨first, more ++ mark :: rest, rfl, digits first List.mem_cons_self⟩
  numeric := by
    intro letter member
    rcases List.mem_append.1 member with member | member
    · exact .inl (digits letter member)
    · rcases List.mem_cons.1 member with rfl | member
      · exact .inr (List.mem_of_mem_drop (i := 2) isMark)
      · exact numeric letter member
  marked := by
    have notDigit : ∀ letter ∈ ['.', 'e'], letter.isDigit = false := by simp
    exact ⟨mark, List.mem_append_right _ List.mem_cons_self, notDigit mark isMark⟩
  value := value

section

variable {whole fraction : List Char}

/-- Digits without a point. -/
theorem denotes_whole (digits : AllDigits whole) (several : whole ≠ []) (shift : ℤ) :
    Denotes (whole ++ 'e' :: shiftText shift) (Nat.ofDigitChars 10 whole 0 * 10 ^ shift) := by
  apply denotes_of_mark digits several (by decide) (numeric_shiftText shift)
  have noExponent : ∀ letter ∈ whole, letter ≠ 'e' := fun letter member =>
    digits.ne member (by decide)
  have noPoint : ∀ letter ∈ whole, letter ≠ '.' := fun letter member =>
    digits.ne member (by decide)
  rcases cut_at noExponent (.inr ⟨shiftText shift, rfl⟩) with ⟨mantissa, rest⟩
  rcases cut_at noPoint (.inl rfl) with ⟨front, back⟩
  rw [List.append_nil] at front back
  rw [realValue, mantissa, rest, front, back]
  simp [shiftValue_shiftText]

/-- Digits with a point. -/
theorem denotes_pointed
    (digits : AllDigits whole) (several : whole ≠ []) (digits' : AllDigits fraction)
    (shift : Option ℤ) :
    Denotes (whole ++ '.' :: (fraction ++ exponentText shift))
      (Nat.ofDigitChars 10 (whole ++ fraction) 0 * 10 ^ (shift.getD 0 - fraction.length)) := by
  have numeric : ∀ letter ∈ fraction ++ exponentText shift, Numeric letter := by
    intro letter member
    rcases List.mem_append.1 member with member | member
    · exact digits'.numeric letter member
    · exact numeric_exponentText shift letter member
  apply denotes_of_mark digits several (by decide) numeric
  have clear : ∀ letter ∈ whole ++ '.' :: fraction, letter ≠ 'e' := by
    intro letter member
    rcases List.mem_append.1 member with member | member
    · exact digits.ne member (by decide)
    · rcases List.mem_cons.1 member with rfl | member
      · decide
      · exact digits'.ne member (by decide)
  rcases cut_at clear (exponentText_ends shift) with ⟨mantissa, rest⟩
  rw [List.append_assoc, List.cons_append] at mantissa rest
  have noPoint : ∀ letter ∈ whole, letter ≠ '.' := fun letter member =>
    digits.ne member (by decide)
  rcases cut_at noPoint (.inr ⟨fraction, rfl⟩) with ⟨front, back⟩
  rw [realValue, mantissa, rest, front, back, shiftValue_exponentText]
  rfl

end

/-! ## Decimal numbers -/

section

variable (decimal : Decimal)

theorem ofDigitChars_digits : Nat.ofDigitChars 10 decimal.digits 0 = decimal.significand :=
  ofDigitChars_toDigits decimal.significand

theorem allDigits_digits : AllDigits decimal.digits :=
  allDigits_toDigits decimal.significand

theorem length_digits_pos : 0 < decimal.digits.length :=
  List.length_pos_iff.2 Nat.toDigits_ne_nil

/-- All digits lie before the point. -/
theorem denotes_of_whole (whole : 0 ≤ decimal.exponent) :
    Denotes (decimal.positional ++ ".0").toList decimal.value := by
  have letters : (decimal.positional ++ ".0").toList =
      (decimal.digits ++ List.replicate decimal.exponent.toNat '0') ++
        '.' :: (List.replicate 1 '0' ++ exponentText none) := by
    rw [String.toList_append, Decimal.positional]
    simp [whole, exponentText]
  have value : decimal.value = (Nat.ofDigitChars 10
      ((decimal.digits ++ List.replicate decimal.exponent.toNat '0') ++ List.replicate 1 '0') 0 :
        ℕ) * 10 ^ ((none : Option ℤ).getD 0 - (List.replicate 1 '0').length) := by
    have power : (10 : ℚ) ^ decimal.exponent.toNat = 10 ^ decimal.exponent := by
      rw [← zpow_natCast, Int.toNat_of_nonneg whole]
    simp only [Nat.ofDigitChars_append, ofDigitChars_digits, Nat.ofDigitChars_replicate_zero,
      List.length_replicate, Option.getD_none, Decimal.value]
    push_cast
    rw [power]
    norm_num
    ring
  rw [letters, value]
  apply denotes_pointed ((allDigits_digits decimal).append (allDigits_zeros _)) _
    (allDigits_zeros 1)
  exact List.append_ne_nil_of_left_ne_nil (List.length_pos_iff.1 (length_digits_pos decimal)) _

/-- The point lies among the digits or before them. -/
theorem denotes_of_fraction (fraction : decimal.exponent < 0) :
    Denotes decimal.positional.toList decimal.value := by
  have digits := allDigits_digits decimal
  have notWhole : ¬ 0 ≤ decimal.exponent := by omega
  rw [Decimal.positional]
  simp only [ge_iff_le, notWhole, if_false, String.toList_ofList]
  split
  · next among =>
      have places : ((decimal.digits.drop decimal.pointPosition.toNat).length : ℤ) =
          -decimal.exponent := by
        rw [List.length_drop, Decimal.pointPosition] at *
        omega
      have several : decimal.digits.take decimal.pointPosition.toNat ≠ [] := by
        have length := length_digits_pos decimal
        apply List.length_pos_iff.1
        rw [List.length_take]
        omega
      have pointed := denotes_pointed
        (fun letter member => digits letter (List.mem_of_mem_take member)) several
        (fun letter member => digits letter (List.mem_of_mem_drop member) :
          AllDigits (decimal.digits.drop decimal.pointPosition.toNat)) none
      rw [places, List.take_append_drop, ofDigitChars_digits, Option.getD_none, zero_sub,
        neg_neg, exponentText, List.append_nil] at pointed
      exact pointed
  · next before =>
      have places : ((List.replicate (-decimal.pointPosition).toNat '0' ++
          decimal.digits).length : ℤ) = -decimal.exponent := by
        rw [List.length_append, List.length_replicate]
        rw [Decimal.pointPosition] at *
        omega
      have pointed := denotes_pointed (allDigits_zeros 1) (List.cons_ne_nil _ _)
        ((allDigits_zeros (-decimal.pointPosition).toNat).append digits) none
      rw [places, exponentText, List.append_nil, Option.getD_none, zero_sub, neg_neg] at pointed
      simp only [Nat.ofDigitChars_append, Nat.ofDigitChars_replicate_zero, Nat.mul_zero,
        ofDigitChars_digits] at pointed
      exact pointed

/-- The letters of a number with an exponent: the point lies behind the first digit. -/
def scientificText : List Char :=
  decimal.digits.take 1 ++
    (if decimal.digits.length ≤ 1 then [] else '.' :: decimal.digits.drop 1) ++
    'e' :: shiftText (decimal.pointPosition - 1)

theorem denotes_scientificText : Denotes (scientificText decimal) decimal.value := by
  have digits := allDigits_digits decimal
  have several := length_digits_pos decimal
  rw [scientificText]
  split
  · next single =>
      have exponent : decimal.pointPosition - 1 = decimal.exponent := by
        rw [Decimal.pointPosition]
        omega
      have whole := denotes_whole digits (List.length_pos_iff.1 several)
        (decimal.pointPosition - 1)
      rw [ofDigitChars_digits, exponent] at whole
      rw [List.append_nil, List.take_of_length_le single, exponent]
      exact whole
  · next several' =>
      have exponent : decimal.pointPosition - 1 - (decimal.digits.drop 1).length =
          decimal.exponent := by
        rw [Decimal.pointPosition, List.length_drop]
        omega
      have first : decimal.digits.take 1 ≠ [] := by
        apply List.length_pos_iff.1
        rw [List.length_take]
        omega
      have pointed := denotes_pointed
        (fun letter member => digits letter (List.mem_of_mem_take member)) first
        (fun letter member => digits letter (List.mem_of_mem_drop member) :
          AllDigits (decimal.digits.drop 1))
        (some (decimal.pointPosition - 1))
      rw [List.take_append_drop, ofDigitChars_digits, Option.getD_some, exponent] at pointed
      rw [List.append_assoc, List.cons_append]
      exact pointed

/-- A number far from its point is written with an exponent. -/
theorem decimalText_eq_scientific
    (near : ¬ (0 ≤ decimal.exponent ∧ decimal.pointPosition ≤ 16))
    (near' : ¬ (-5 < decimal.pointPosition ∧ decimal.pointPosition ≤ 16)) :
    (decimalText decimal).toList = scientificText decimal := by
  have sign : (toString (if decimal.pointPosition < 1 then "-" else "+")).toList =
      [if decimal.pointPosition - 1 < 0 then '-' else '+'] := by
    have below : decimal.pointPosition < 1 ↔ decimal.pointPosition - 1 < 0 := by omega
    rw [if_congr below rfl rfl]
    split <;> rfl
  have letter : (toString "e").toList = ['e'] := rfl
  rw [decimalText]
  simp only [near, near', if_false, String.toList_append, String.toList_ofList,
    toList_toString, sign, letter, List.append_assoc, List.cons_append, List.nil_append,
    scientificText, shiftText]

/-- The text of a decimal number stands for it. -/
theorem denotes_decimalText : Denotes (decimalText decimal).toList decimal.value := by
  by_cases near : 0 ≤ decimal.exponent ∧ decimal.pointPosition ≤ 16
  · have text : decimalText decimal = decimal.positional ++ ".0" := if_pos near
    rw [text]
    exact denotes_of_whole decimal near.1
  · by_cases near' : -5 < decimal.pointPosition ∧ decimal.pointPosition ≤ 16
    · have text : decimalText decimal = decimal.positional :=
        (if_neg near).trans (if_pos near')
      rw [text]
      exact denotes_of_fraction decimal (by omega)
    · rw [decimalText_eq_scientific decimal near near']
      exact denotes_scientificText decimal

end

/-! ## Doubles -/

/-- The text of a number without its sign. -/
def magnitudeText (significand : ℕ) (exponent : ℤ) : String :=
  if significand = 0 then "0.0"
  else decimalText (Format.double.shortest .toEven significand exponent)

/-- What the text of a number without its sign stands for. -/
def magnitudeValue (significand : ℕ) (exponent : ℤ) : ℚ :=
  if significand = 0 then 0 else (Format.double.shortest .toEven significand exponent).value

theorem denotes_magnitudeText (significand : ℕ) (exponent : ℤ) :
    Denotes (magnitudeText significand exponent).toList
      (magnitudeValue significand exponent) := by
  rw [magnitudeText, magnitudeValue]
  split
  · have zero := denotes_pointed (allDigits_zeros 1) (List.cons_ne_nil _ _) (allDigits_zeros 1)
      none
    simp only [Nat.ofDigitChars_append, Nat.ofDigitChars_replicate_zero, Nat.mul_zero,
      Nat.cast_zero, zero_mul] at zero
    exact zero
  · exact denotes_decimalText _

/-- Whether a double is a number. -/
def IsFinite (value : Double) : Prop :=
  ∃ negative significand exponent, value.datum = .finite negative significand exponent

theorem realText_eq
    {value : Double} {negative : Bool} {significand : ℕ} {exponent : ℤ}
    (finite : value.datum = .finite negative significand exponent) :
    (realText value).toList =
      (if negative then ['-'] else []) ++ (magnitudeText significand exponent).toList := by
  rw [realText, finite]
  dsimp only
  rw [← magnitudeText]
  cases negative with
  | true => rw [if_pos rfl, if_pos rfl, String.toList_append]; rfl
  | false => rw [if_neg (by decide), if_neg (by decide)]; rfl

/-- Finite numbers of the same value are the same. -/
theorem finite_eq_of_magnitude
    {word word' : ℕ} {negative negative' : Bool} {significand significand' : ℕ}
    {exponent exponent' : ℤ}
    (decoded : Format.double.decode word = .finite negative significand exponent)
    (decoded' : Format.double.decode word' = .finite negative' significand' exponent')
    (same : magnitudeValue significand exponent = magnitudeValue significand' exponent') :
    significand = significand' ∧ exponent = exponent' := by
  rw [magnitudeValue, magnitudeValue] at same
  split at same <;> split at same
  · next zero zero' =>
      have fields := (Format.fields_of_decode decoded).2
      have fields' := (Format.fields_of_decode decoded').2
      omega
  · next nonzero' =>
      exact ((Format.shortest_pos (Format.canonical_of_decode decoded' nonzero') .toEven).ne
        same).elim
  · next nonzero zero' =>
      exact ((Format.shortest_pos (Format.canonical_of_decode decoded nonzero) .toEven).ne'
        same).elim
  · next nonzero nonzero' =>
      exact Format.shortest_injective (Format.canonical_of_decode decoded nonzero)
        (Format.canonical_of_decode decoded' nonzero') same

/-- The text of a number tells it. -/
theorem realText_injective
    {value other : Double} (finite : IsFinite value) (finite' : IsFinite other)
    (same : realText value = realText other) : value = other := by
  rcases finite with ⟨negative, significand, exponent, decoded⟩
  rcases finite' with ⟨negative', significand', exponent', decoded'⟩
  have letters := congrArg String.toList same
  rw [realText_eq decoded, realText_eq decoded'] at letters
  have denotes := denotes_magnitudeText significand exponent
  have denotes' := denotes_magnitudeText significand' exponent'
  -- a sign is no digit, so both have one or none has
  have signs : negative = negative' ∧
      (magnitudeText significand exponent).toList =
        (magnitudeText significand' exponent').toList := by
    cases negative <;> cases negative'
    · exact ⟨rfl, letters⟩
    · exact (denotes.ne_signed letters).elim
    · exact (denotes'.ne_signed letters.symm).elim
    · exact ⟨rfl, (List.cons.inj letters).2⟩
  have magnitude : magnitudeValue significand exponent =
      magnitudeValue significand' exponent' := by
    rw [← denotes.value, ← denotes'.value, signs.2]
  rcases finite_eq_of_magnitude decoded decoded' magnitude with ⟨rfl, rfl⟩
  rcases signs with ⟨rfl, -⟩
  have words : value.bits.toNat = other.bits.toNat :=
    Format.decode_injective value.bits.toNat_lt other.bits.toNat_lt decoded decoded'
  have bits : value.bits = other.bits := UInt64.toNat_inj.1 words
  cases value
  cases other
  cases bits
  rfl

end FrameEval.Json
