import FrameEval.Binary.Shortest
import Mathlib.Algebra.Order.Field.Power
import Mathlib.Data.Rat.Cast.Order
import Mathlib.Tactic.Linarith
import Mathlib.Tactic.NormNum
import Mathlib.Tactic.Positivity
import Mathlib.Tactic.Ring

/-!
# The shortest digits tell numbers apart

The number with the fewest digits is chosen among those that round to a word, and seventeen
digits always suffice: the grid of so many digits is finer than the rounding interval is wide.
The rounding intervals of different words have no number in common, since where two of them
meet, one of the two significands is odd and gives the point to the other.  So words with the
same shortest digits are the same.
-/

namespace FrameEval.Binary

/-! ## Powers with either sign -/

/-- A whole power is a quotient of two natural ones. -/
theorem pow_toNat_eq
    {base : ℚ} (nonzero : base ≠ 0) (exponent : ℤ) :
    base ^ exponent.toNat = base ^ exponent * base ^ (-exponent).toNat := by
  have difference : (exponent.toNat : ℤ) = exponent + ((-exponent).toNat : ℤ) := by omega
  rw [← zpow_natCast base exponent.toNat, difference, zpow_add₀ nonzero, zpow_natCast]

namespace Decimal

/-- The number itself. -/
def value (decimal : Decimal) : ℚ :=
  decimal.significand * 10 ^ decimal.exponent

theorem value_go (bound significand : ℕ) (exponent : ℤ) :
    (normalize.go bound significand exponent).value = significand * 10 ^ exponent := by
  induction bound generalizing significand exponent with
  | zero => rfl
  | succ bound ih =>
      rw [normalize.go]
      split
      · next round =>
          have whole : (significand : ℚ) = (significand / 10 : ℕ) * 10 := by
            exact_mod_cast (Nat.div_mul_cancel (Nat.dvd_of_mod_eq_zero round)).symm
          rw [ih, zpow_add_one₀ (by norm_num), whole]
          ring
      · rfl

/-- Trailing zeros do not matter. -/
theorem value_normalize (decimal : Decimal) : decimal.normalize.value = decimal.value :=
  value_go _ _ _

end Decimal

namespace Format

/-! ## Decimal grids -/

section

variable (exponent place : ℤ)

/-- A binary unit on a decimal grid, both made whole. -/
def unitWeight : ℕ := Nat.pow 2 exponent.toNat * Nat.pow 10 (-place).toNat

/-- A step of a decimal grid in binary units, both made whole. -/
def stepWeight : ℕ := Nat.pow 2 (-exponent).toNat * Nat.pow 10 place.toNat

theorem unitWeight_pos : 0 < unitWeight exponent place :=
  Nat.mul_pos (Nat.pow_pos (by decide)) (Nat.pow_pos (by decide))

theorem stepWeight_pos : 0 < stepWeight exponent place :=
  Nat.mul_pos (Nat.pow_pos (by decide)) (Nat.pow_pos (by decide))

/-- What a number is multiplied with to make units and steps whole. -/
def weight : ℚ := unitWeight exponent place / 2 ^ exponent

theorem weight_pos : 0 < weight exponent place := by
  have unit : (0 : ℚ) < unitWeight exponent place := by
    exact_mod_cast unitWeight_pos exponent place
  exact div_pos unit (by positivity)

variable {exponent place}

theorem cast_units (units : ℕ) :
    ((units * unitWeight exponent place : ℕ) : ℚ) =
      units * 2 ^ exponent * weight exponent place := by
  have power : (2 : ℚ) ^ exponent ≠ 0 := by positivity
  rw [weight, Nat.cast_mul, mul_assoc, mul_div_cancel₀ _ power]

theorem cast_steps (steps : ℕ) :
    ((steps * stepWeight exponent place : ℕ) : ℚ) =
      steps * 10 ^ place * weight exponent place := by
  have power : (2 : ℚ) ^ exponent ≠ 0 := by positivity
  have binary := pow_toNat_eq (by norm_num : (2 : ℚ) ≠ 0) exponent
  have decimal := pow_toNat_eq (by norm_num : (10 : ℚ) ≠ 0) place
  rw [weight, mul_div_assoc', eq_div_iff power, stepWeight, unitWeight]
  push_cast [Nat.pow_eq]
  rw [binary, decimal]
  ring

theorem steps_le_units_iff (steps units : ℕ) :
    steps * stepWeight exponent place ≤ units * unitWeight exponent place ↔
      (steps : ℚ) * 10 ^ place ≤ units * 2 ^ exponent := by
  rw [← mul_le_mul_iff_left₀ (weight_pos exponent place), ← cast_steps, ← cast_units,
    Nat.cast_le]

theorem units_le_steps_iff (units steps : ℕ) :
    units * unitWeight exponent place ≤ steps * stepWeight exponent place ↔
      (units : ℚ) * 2 ^ exponent ≤ steps * 10 ^ place := by
  rw [← mul_le_mul_iff_left₀ (weight_pos exponent place), ← cast_steps, ← cast_units,
    Nat.cast_le]

theorem steps_lt_units_iff (steps units : ℕ) :
    steps * stepWeight exponent place < units * unitWeight exponent place ↔
      (steps : ℚ) * 10 ^ place < units * 2 ^ exponent := by
  rw [← not_le, units_le_steps_iff, not_le]

theorem units_lt_steps_iff (units steps : ℕ) :
    units * unitWeight exponent place < steps * stepWeight exponent place ↔
      (units : ℚ) * 2 ^ exponent < steps * 10 ^ place := by
  rw [← not_le, steps_le_units_iff, not_le]

end

/-! ## The chosen number rounds to the word -/

end Format

/-- Whether a number lies in an interval whose unit is a power of two. -/
def Interval.Holds (interval : Interval) (exponent : ℤ) (number : ℚ) : Prop :=
  if interval.inclusive then
    interval.lower * 2 ^ exponent ≤ number ∧ number ≤ interval.upper * 2 ^ exponent
  else interval.lower * 2 ^ exponent < number ∧ number < interval.upper * 2 ^ exponent

namespace Interval

variable {interval : Interval} {exponent : ℤ} {number : ℚ}

/-- Only an interval with its ends reaches the upper one. -/
theorem Holds.le_upper (holds : interval.Holds exponent number) :
    number ≤ interval.upper * 2 ^ exponent ∧
      (number = interval.upper * 2 ^ exponent → interval.inclusive = true) := by
  rw [Holds] at holds
  split at holds
  · next inclusive => exact ⟨holds.2, fun _ => inclusive⟩
  · exact ⟨holds.2.le, fun reached => (holds.2.ne reached).elim⟩

/-- Only an interval with its ends reaches the lower one. -/
theorem Holds.lower_le (holds : interval.Holds exponent number) :
    interval.lower * 2 ^ exponent ≤ number ∧
      (interval.lower * 2 ^ exponent = number → interval.inclusive = true) := by
  rw [Holds] at holds
  split at holds
  · next inclusive => exact ⟨holds.1, fun _ => inclusive⟩
  · exact ⟨holds.1.le, fun reached => (holds.1.ne reached).elim⟩

end Interval

/-- The center lies between the ends. -/
structure Interval.Ordered (interval : Interval) : Prop where
  lower : interval.lower < interval.center
  upper : interval.center < interval.upper

namespace Format

section

variable {interval : Interval} {exponent place : ℤ} {tie : Tie} {best : ℕ}

/-- Whether a step of the grid lies above the lower end. -/
def clearsLower (interval : Interval) (exponent place : ℤ) (steps : ℕ) : Prop :=
  if interval.inclusive then
    interval.lower * unitWeight exponent place ≤ steps * stepWeight exponent place
  else interval.lower * unitWeight exponent place < steps * stepWeight exponent place

/-- Whether a step of the grid lies below the upper end. -/
def clearsUpper (interval : Interval) (exponent place : ℤ) (steps : ℕ) : Prop :=
  if interval.inclusive then
    steps * stepWeight exponent place ≤ interval.upper * unitWeight exponent place
  else steps * stepWeight exponent place < interval.upper * unitWeight exponent place

instance (steps : ℕ) : Decidable (clearsLower interval exponent place steps) :=
  inferInstanceAs (Decidable (ite _ _ _))

instance (steps : ℕ) : Decidable (clearsUpper interval exponent place steps) :=
  inferInstanceAs (Decidable (ite _ _ _))

theorem holds_iff (steps : ℕ) :
    interval.Holds exponent (steps * 10 ^ place) ↔
      clearsLower interval exponent place steps ∧ clearsUpper interval exponent place steps := by
  rw [Interval.Holds, clearsLower, clearsUpper]
  split
  · rw [units_le_steps_iff, steps_le_units_iff]
  · rw [units_lt_steps_iff, steps_lt_units_iff]

/-- The last step of the grid that is not above the center. -/
def lastStep (interval : Interval) (exponent place : ℤ) : ℕ :=
  interval.center * unitWeight exponent place / stepWeight exponent place

theorem lastStep_le (interval : Interval) (exponent place : ℤ) :
    lastStep interval exponent place * stepWeight exponent place ≤
      interval.center * unitWeight exponent place :=
  Nat.div_mul_le_self _ _

theorem lt_lastStep_succ (interval : Interval) (exponent place : ℤ) :
    interval.center * unitWeight exponent place <
      (lastStep interval exponent place + 1) * stepWeight exponent place := by
  rw [Nat.add_mul, Nat.one_mul]
  exact Nat.lt_div_mul_add (stepWeight_pos exponent place)

theorem clearsUpper_lastStep (ordered : interval.Ordered) :
    clearsUpper interval exponent place (lastStep interval exponent place) := by
  have below : interval.center * unitWeight exponent place <
      interval.upper * unitWeight exponent place :=
    Nat.mul_lt_mul_of_pos_right ordered.upper (unitWeight_pos exponent place)
  have last := lastStep_le interval exponent place
  rw [clearsUpper]
  split <;> omega

theorem clearsLower_lastStep_succ (ordered : interval.Ordered) :
    clearsLower interval exponent place (lastStep interval exponent place + 1) := by
  have above : interval.lower * unitWeight exponent place <
      interval.center * unitWeight exponent place :=
    Nat.mul_lt_mul_of_pos_right ordered.lower (unitWeight_pos exponent place)
  have next := lt_lastStep_succ interval exponent place
  rw [clearsLower]
  split <;> omega

/-- Only the two steps next to the center are chosen, and only if they lie in the interval. -/
theorem onGrid?_eq :
    ∃ (prefersNext : Prop) (_ : Decidable prefersNext),
      onGrid? interval exponent tie place =
        if clearsLower interval exponent place (lastStep interval exponent place) ∧
            clearsUpper interval exponent place (lastStep interval exponent place + 1) then
          some (if prefersNext then lastStep interval exponent place + 1
            else lastStep interval exponent place)
        else if clearsLower interval exponent place (lastStep interval exponent place) then
          some (lastStep interval exponent place)
        else if clearsUpper interval exponent place (lastStep interval exponent place + 1) then
          some (lastStep interval exponent place + 1)
        else none :=
  ⟨_, _, rfl⟩

theorem onGrid?_eq_some
    (chosen : onGrid? interval exponent tie place = some best) :
    best = lastStep interval exponent place ∧ clearsLower interval exponent place best ∨
      best = lastStep interval exponent place + 1 ∧
        clearsUpper interval exponent place best := by
  rcases onGrid?_eq with ⟨prefersNext, decidable, unfolded⟩
  rw [unfolded] at chosen
  split at chosen
  · next both =>
      split at chosen
      · cases chosen
        exact .inr ⟨rfl, both.2⟩
      · cases chosen
        exact .inl ⟨rfl, both.1⟩
  · split at chosen
    · next lower =>
        cases chosen
        exact .inl ⟨rfl, lower⟩
    · split at chosen
      · next upper =>
          cases chosen
          exact .inr ⟨rfl, upper⟩
      · cases chosen

theorem onGrid?_eq_none
    (missed : onGrid? interval exponent tie place = none) :
    ¬ clearsLower interval exponent place (lastStep interval exponent place) ∧
      ¬ clearsUpper interval exponent place (lastStep interval exponent place + 1) := by
  rcases onGrid?_eq with ⟨prefersNext, decidable, unfolded⟩
  rw [unfolded] at missed
  split at missed
  · cases missed
  · split at missed
    · cases missed
    · next lower =>
        split at missed
        · cases missed
        · next upper => exact ⟨lower, upper⟩

/-- What is chosen rounds to the word. -/
theorem holds_of_onGrid?
    (ordered : interval.Ordered) (chosen : onGrid? interval exponent tie place = some best) :
    interval.Holds exponent (best * 10 ^ place) := by
  rw [holds_iff]
  rcases onGrid?_eq_some chosen with ⟨rfl, lower⟩ | ⟨rfl, upper⟩
  · exact ⟨lower, clearsUpper_lastStep ordered⟩
  · exact ⟨clearsLower_lastStep_succ ordered, upper⟩

/-- A grid that is finer than the interval is wide has a step in it. -/
theorem exists_onGrid?
    (tie : Tie) (fine : (10 : ℚ) ^ place < (interval.upper - interval.lower) * 2 ^ exponent) :
    ∃ best, onGrid? interval exponent tie place = some best := by
  cases chosen : onGrid? interval exponent tie place with
  | some best => exact ⟨best, rfl⟩
  | none =>
      rcases onGrid?_eq_none chosen with ⟨lower, upper⟩
      have below : (lastStep interval exponent place : ℚ) * 10 ^ place ≤
          interval.lower * 2 ^ exponent := by
        rw [← steps_le_units_iff]
        rw [clearsLower] at lower
        split at lower <;> omega
      have above : (interval.upper : ℚ) * 2 ^ exponent ≤
          (lastStep interval exponent place + 1 : ℕ) * 10 ^ place := by
        rw [← units_le_steps_iff]
        rw [clearsUpper] at upper
        split at upper <;> omega
      push_cast at above
      linarith

end

/-! ## The place of the first digit -/

theorem pow_length_toDigits_le {number : ℕ} (positive : 0 < number) :
    10 ^ ((Nat.toDigits 10 number).length - 1) ≤ number := by
  rcases Nat.eq_zero_or_pos ((Nat.toDigits 10 number).length - 1) with single | several
  · rw [single]
    exact positive
  · rw [← Nat.not_lt, ← Nat.length_toDigits_le_iff (by decide) several]
    omega

theorem lt_pow_length_toDigits (number : ℕ) :
    number < 10 ^ (Nat.toDigits 10 number).length :=
  (Nat.length_toDigits_le_iff (by decide)
    (List.length_pos_iff.2 Nat.toDigits_ne_nil)).1 (Nat.le_refl _)

theorem scaled_ratio (count : ℕ) (exponent : ℤ) :
    ((Ratio.scaled count exponent).numerator : ℚ) =
      count * 2 ^ exponent * (Ratio.scaled count exponent).denominator := by
  have binary := pow_toNat_eq (by norm_num : (2 : ℚ) ≠ 0) exponent
  rw [Ratio.scaled]
  push_cast [Nat.pow_eq]
  rw [binary]
  ring

/-- A number has at least the digits that are counted. -/
theorem pow_integralDigits_le
    {center : ℕ} (positive : 0 < center) (exponent : ℤ) :
    (10 : ℚ) ^ (integralDigits center exponent - 1) ≤ center * 2 ^ exponent := by
  have ratio := scaled_ratio center exponent
  have numeratorPos : 0 < (Ratio.scaled center exponent).numerator :=
    Nat.mul_pos positive (Nat.pow_pos (by decide))
  have denominatorPos : (0 : ℚ) < (Ratio.scaled center exponent).denominator := by
    exact_mod_cast (Nat.pow_pos (by decide) : 0 < Nat.pow 2 (-exponent).toNat)
  rw [integralDigits]
  generalize Ratio.scaled center exponent = fraction at *
  generalize guessed : ((Nat.toDigits 10 fraction.numerator).length : ℤ) -
    (Nat.toDigits 10 fraction.denominator).length = guess
  rw [← mul_le_mul_iff_left₀ denominatorPos, ← ratio]
  split
  · next reached =>
      have decimal := pow_toNat_eq (by norm_num : (10 : ℚ) ≠ 0) guess
      have factor : (0 : ℚ) < 10 ^ (-guess).toNat := by positivity
      have cast : (fraction.denominator : ℚ) * 10 ^ guess.toNat ≤
          fraction.numerator * 10 ^ (-guess).toNat := by
        exact_mod_cast reached
      rw [add_sub_cancel_right, ← mul_le_mul_iff_left₀ factor]
      rw [decimal] at cast
      linarith
  · -- with fewer digits than guessed there is still one less than the difference of the lengths
    have several := List.length_pos_iff.2 (Nat.toDigits_ne_nil (n := fraction.numerator) (b := 10))
    have many : (10 : ℚ) ^ ((Nat.toDigits 10 fraction.numerator).length - 1) ≤
        fraction.numerator := by
      exact_mod_cast pow_length_toDigits_le numeratorPos
    have few : (fraction.denominator : ℚ) ≤
        10 ^ (Nat.toDigits 10 fraction.denominator).length := by
      exact_mod_cast (lt_pow_length_toDigits fraction.denominator).le
    have lengths : guess - 1 + ((Nat.toDigits 10 fraction.denominator).length : ℤ) =
        ((Nat.toDigits 10 fraction.numerator).length - 1 : ℕ) := by
      omega
    calc (10 : ℚ) ^ (guess - 1) * fraction.denominator
        ≤ 10 ^ (guess - 1) * 10 ^ (Nat.toDigits 10 fraction.denominator).length :=
          mul_le_mul_of_nonneg_left few (by positivity)
      _ = 10 ^ ((Nat.toDigits 10 fraction.numerator).length - 1) := by
          rw [← zpow_natCast, ← zpow_add₀ (by norm_num), lengths, zpow_natCast]
      _ ≤ fraction.numerator := many

/-! ## Seventeen digits suffice -/

/-- The numbers of double precision above zero: the significand is as long as possible unless the
exponent is the least. -/
structure Canonical (significand : ℕ) (exponent : ℤ) : Prop where
  positive : 0 < significand
  bounded : significand < 2 ^ 53
  least : -1074 ≤ exponent
  full : -1074 < exponent → 2 ^ 52 ≤ significand

section

variable {significand other : ℕ} {exponent otherExponent : ℤ}

theorem leastExponent_double : double.leastExponent = -1074 := by
  decide

/-- The lower end is half a place below the number, or a quarter below a power of two. -/
theorem lower_double (canonical : Canonical significand exponent) :
    ¬ (significand = 2 ^ 52 ∧ -1074 < exponent) ∧
        (double.interval significand exponent).lower + 2 = 4 * significand ∨
      (significand = 2 ^ 52 ∧ -1074 < exponent) ∧
        (double.interval significand exponent).lower + 1 = 4 * significand := by
  have positive := canonical.positive
  have power : Nat.pow 2 double.fractionBits = 2 ^ 52 := rfl
  simp only [interval, leastExponent_double, power, gt_iff_lt]
  by_cases narrow : significand = 2 ^ 52 ∧ -1074 < exponent
  · rw [if_pos narrow]
    exact .inr ⟨narrow, by omega⟩
  · rw [if_neg narrow]
    exact .inl ⟨narrow, by omega⟩

theorem upper_double :
    (double.interval significand exponent).upper = 4 * significand + 2 := rfl

theorem ordered_double (canonical : Canonical significand exponent) :
    (double.interval significand exponent).Ordered where
  lower := by
    have center : (double.interval significand exponent).center = 4 * significand := rfl
    rcases lower_double canonical with ⟨-, lower⟩ | ⟨-, lower⟩ <;> omega
  upper := by
    have center : (double.interval significand exponent).center = 4 * significand := rfl
    rw [upper_double]
    omega

/-- The grid of seventeen digits is finer than the interval is wide. -/
theorem seventeen_digits_suffice (canonical : Canonical significand exponent) :
    (10 : ℚ) ^ (integralDigits (4 * significand) (exponent - 2) - 16 - 1) <
      ((double.interval significand exponent).upper -
        (double.interval significand exponent).lower) * 2 ^ (exponent - 2) := by
  have first := pow_integralDigits_le (Nat.mul_pos (by decide : 0 < 4) canonical.positive)
    (exponent - 2)
  have unit : (0 : ℚ) < 2 ^ (exponent - 2) := by positivity
  have shift : (10 : ℚ) ^ (integralDigits (4 * significand) (exponent - 2) - 16 - 1) * 10 ^ 16 =
      10 ^ (integralDigits (4 * significand) (exponent - 2) - 1) := by
    rw [← zpow_natCast, ← zpow_add₀ (by norm_num)]
    congr 1
    push_cast
    ring
  rw [← shift] at first
  have width : ((4 * significand : ℕ) : ℚ) < 10 ^ 16 *
      ((double.interval significand exponent).upper -
        (double.interval significand exponent).lower) := by
    have bounded : (significand : ℚ) < 2 ^ 53 := by exact_mod_cast canonical.bounded
    rw [upper_double]
    rcases lower_double canonical with ⟨-, lower⟩ | ⟨⟨narrow, -⟩, lower⟩
    · have cast : ((double.interval significand exponent).lower : ℚ) + 2 = 4 * significand := by
        exact_mod_cast lower
      push_cast
      linarith
    · have cast : ((double.interval significand exponent).lower : ℚ) + 1 = 4 * significand := by
        exact_mod_cast lower
      have cast' : (significand : ℚ) = 2 ^ 52 := by exact_mod_cast narrow
      push_cast
      linarith
  have scaled := mul_lt_mul_of_pos_right width unit
  linarith

/-- The shortest number rounds to the word. -/
theorem holds_shortest (canonical : Canonical significand exponent) (tie : Tie) :
    (double.interval significand exponent).Holds (exponent - 2)
      (double.shortest tie significand exponent).value := by
  rcases exists_onGrid? tie (seventeen_digits_suffice canonical) with ⟨last, found⟩
  rw [shortest]
  cases chosen : (List.range 17).findSome? _ with
  | none =>
      have missed := List.findSome?_eq_none_iff.1 chosen 16 (by decide)
      have found' : onGrid? (double.interval significand exponent) (exponent - 2) tie
          (integralDigits (4 * significand) (exponent - 2) - (16 : ℕ) - 1) = some last := found
      rw [Option.map_eq_none_iff] at missed
      cases missed.symm.trans found'
  | some decimal =>
      rcases List.exists_of_findSome?_eq_some chosen with ⟨count, -, attempted⟩
      rcases Option.map_eq_some_iff.1 attempted with ⟨best, onGrid, rfl⟩
      rw [Option.elim_some, Decimal.value_normalize]
      exact holds_of_onGrid? (ordered_double canonical) onGrid

theorem shortest_pos (canonical : Canonical significand exponent) (tie : Tie) :
    0 < (double.shortest tie significand exponent).value := by
  have reached := (holds_shortest canonical tie).lower_le.1
  have positive := canonical.positive
  have lower : 0 < (double.interval significand exponent).lower := by
    rcases lower_double canonical with ⟨-, lower⟩ | ⟨-, lower⟩ <;> omega
  have bound : (0 : ℚ) < (double.interval significand exponent).lower * 2 ^ (exponent - 2) := by
    have cast : (0 : ℚ) < (double.interval significand exponent).lower := by exact_mod_cast lower
    positivity
  exact bound.trans_le reached

/-! ## Intervals of different words -/

/-- A number is less than another. -/
def Precedes (significand other : ℕ) (exponent otherExponent : ℤ) : Prop :=
  exponent < otherExponent ∨ exponent = otherExponent ∧ significand < other

/-- The intervals of different words do not overlap, and where they meet one of the two
significands is odd. -/
theorem upper_le_lower
    (canonical : Canonical significand exponent) (canonical' : Canonical other otherExponent)
    (precedes : Precedes significand other exponent otherExponent) :
    ∃ places : ℕ, otherExponent = exponent + places ∧
      (double.interval significand exponent).upper ≤
        (double.interval other otherExponent).lower * 2 ^ places ∧
      ((double.interval significand exponent).upper =
          (double.interval other otherExponent).lower * 2 ^ places →
        significand % 2 = 0 → other % 2 ≠ 0) := by
  have bounded := canonical.bounded
  have least := canonical.least
  have lower := lower_double canonical'
  rw [upper_double]
  rcases precedes with above | ⟨rfl, less⟩
  · -- the other significand is as long as possible, and its places count at least twice
    refine ⟨(otherExponent - exponent).toNat, by omega, ?_⟩
    have full := canonical'.full (lt_of_le_of_lt canonical.least above)
    have twice : 2 ≤ 2 ^ (otherExponent - exponent).toNat := by
      calc 2 = 2 ^ 1 := rfl
        _ ≤ 2 ^ (otherExponent - exponent).toNat := Nat.pow_le_pow_right (by decide) (by omega)
    have wide := Nat.mul_le_mul_left (double.interval other otherExponent).lower twice
    constructor
    · omega
    · omega
  · refine ⟨0, by omega, ?_, ?_⟩
    · omega
    · omega

/-- Of two words with the same shortest digits neither is less. -/
theorem not_precedes_of_shortest
    (canonical : Canonical significand exponent) (canonical' : Canonical other otherExponent)
    {tie : Tie}
    (same : (double.shortest tie significand exponent).value =
      (double.shortest tie other otherExponent).value) :
    ¬ Precedes significand other exponent otherExponent := by
  intro precedes
  rcases upper_le_lower canonical canonical' precedes with ⟨places, shift, apart, odd⟩
  have unit : (0 : ℚ) < 2 ^ (exponent - 2) := by positivity
  have rescaled : (2 : ℚ) ^ (otherExponent - 2) = 2 ^ places * 2 ^ (exponent - 2) := by
    rw [shift, ← zpow_natCast, ← zpow_add₀ (by norm_num)]
    congr 1
    ring
  have ends : ((double.interval significand exponent).upper : ℚ) * 2 ^ (exponent - 2) ≤
      (double.interval other otherExponent).lower * 2 ^ (otherExponent - 2) := by
    have cast : ((double.interval significand exponent).upper : ℚ) ≤
        (double.interval other otherExponent).lower * 2 ^ places := by
      exact_mod_cast apart
    rw [rescaled, ← mul_assoc]
    exact mul_le_mul_of_nonneg_right cast unit.le
  rcases (holds_shortest canonical tie).le_upper with ⟨below, even⟩
  rcases (holds_shortest canonical' tie).lower_le with ⟨above, even'⟩
  rw [← same] at above even'
  have meets : ((double.interval significand exponent).upper : ℚ) * 2 ^ (exponent - 2) =
      (double.interval other otherExponent).lower * 2 ^ (otherExponent - 2) :=
    le_antisymm ends (above.trans below)
  have equal : (double.interval significand exponent).upper =
      (double.interval other otherExponent).lower * 2 ^ places := by
    rw [rescaled, ← mul_assoc] at meets
    exact_mod_cast mul_right_cancel₀ unit.ne' meets
  apply odd equal
  · exact of_decide_eq_true (even (le_antisymm below (meets.le.trans above)))
  · exact of_decide_eq_true (even' (le_antisymm above (below.trans meets.le)))

/-- Words with the same shortest digits are the same. -/
theorem shortest_injective
    (canonical : Canonical significand exponent) (canonical' : Canonical other otherExponent)
    {tie : Tie}
    (same : (double.shortest tie significand exponent).value =
      (double.shortest tie other otherExponent).value) :
    significand = other ∧ exponent = otherExponent := by
  have first := not_precedes_of_shortest canonical canonical' same
  have second := not_precedes_of_shortest canonical' canonical same.symm
  rw [Precedes] at first second
  omega

end

/-! ## Words of double precision -/

section

variable {word other significand : ℕ} {exponent : ℤ} {negative : Bool}

/-- The fields of a finite word: sign, exponent and fraction. -/
theorem fields_of_decode
    (decoded : double.decode word = .finite negative significand exponent) :
    negative = decide (word / 2 ^ 63 % 2 = 1) ∧
      (word / 2 ^ 52 % 2 ^ 11 = 0 ∧ significand = word % 2 ^ 52 ∧ exponent = -1074 ∨
        0 < word / 2 ^ 52 % 2 ^ 11 ∧ significand = 2 ^ 52 + word % 2 ^ 52 ∧
          exponent = (word / 2 ^ 52 % 2 ^ 11 : ℕ) - 1075) := by
  have unfolded : double.decode word =
      if word / 2 ^ 52 % 2 ^ 11 = 2 ^ 11 - 1 then
        if word % 2 ^ 52 = 0 then .infinite (word / 2 ^ 63 % 2 = 1) else .nan
      else if word / 2 ^ 52 % 2 ^ 11 = 0 then
        .finite (word / 2 ^ 63 % 2 = 1) (word % 2 ^ 52) (-1074)
      else
        .finite (word / 2 ^ 63 % 2 = 1) (2 ^ 52 + word % 2 ^ 52)
          (-1074 + (word / 2 ^ 52 % 2 ^ 11 : ℕ) - 1) := by
    rw [decode, leastExponent_double]
    rfl
  rw [unfolded] at decoded
  split at decoded
  · split at decoded <;> cases decoded
  · split at decoded
    · next least =>
        cases decoded
        exact ⟨rfl, .inl ⟨least, rfl, rfl⟩⟩
    · next above =>
        cases decoded
        exact ⟨rfl, .inr ⟨by omega, rfl, by omega⟩⟩

/-- A finite word denotes zero or a number in canonical form. -/
theorem canonical_of_decode
    (decoded : double.decode word = .finite negative significand exponent)
    (nonzero : significand ≠ 0) : Canonical significand exponent := by
  have fields := (fields_of_decode decoded).2
  exact ⟨by omega, by omega, by omega, by omega⟩

/-- A finite number has one word. -/
theorem decode_injective
    (small : word < 2 ^ 64) (small' : other < 2 ^ 64)
    (decoded : double.decode word = .finite negative significand exponent)
    (same : double.decode other = .finite negative significand exponent) : word = other := by
  rcases fields_of_decode decoded with ⟨sign, fields⟩
  rcases fields_of_decode same with ⟨sign', fields'⟩
  have signs := decide_eq_decide.1 (sign.symm.trans sign')
  omega

end

end Format

end FrameEval.Binary
