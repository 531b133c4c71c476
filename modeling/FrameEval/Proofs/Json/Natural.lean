import FrameEval.Proofs.Json.Reading

/-!
# Natural numbers in texts

The digits of a natural number are read as that number if it fits into a word.  The digits of a
greater one are read as a real, if they are read at all: the reader takes digits only as long as
their number fits, and once one is left over no integer comes out.
-/

namespace FrameEval.Json

/-! ## Readers of reals -/

/-- Whatever such a reader reads is a real. -/
def ReadsReals (reader : Reader Number) : Prop :=
  ∀ letters number rest, reader letters = some (number, rest) → ∃ value, number = .real value

theorem exists_real_of_map
    {scaled : Option Double} {number : Number} {negative : Bool} {letters rest : List Char}
    (read : (scaled.map fun magnitude => (signedReal negative magnitude, letters)) =
      some (number, rest)) :
    ∃ value, number = .real value := by
  obtain ⟨magnitude, -, same⟩ := Option.map_eq_some_iff.1 read
  cases same
  exact ⟨_, rfl⟩

theorem readsReals_readExponent (negative : Bool) (significand : ℕ) (exponent : ℤ) :
    ReadsReals (readExponent negative significand exponent) := by
  intro letters number rest read
  simp only [readExponent] at read
  split_ifs at read
  · cases read
    exact ⟨_, rfl⟩
  · exact exists_real_of_map read
  · exact exists_real_of_map read

theorem readsReals_finishReal (negative : Bool) (significand : ℕ) (exponent : ℤ) :
    ReadsReals (finishReal negative significand exponent) := by
  intro letters number rest read
  unfold finishReal at read
  split at read
  · exact readsReals_readExponent _ _ _ _ _ _ read
  · exact readsReals_readExponent _ _ _ _ _ _ read
  · exact exists_real_of_map read

theorem readsReals_readDecimals (negative : Bool) (significand : ℕ) (exponent : ℤ) :
    ReadsReals (readDecimals negative significand exponent) := by
  intro letters number rest read
  simp only [readDecimals] at read
  split_ifs at read
  exact readsReals_finishReal _ _ _ _ _ _ read

theorem readsReals_finishLong (negative : Bool) (significand : ℕ) :
    ReadsReals (finishLong negative significand) := by
  intro letters number rest read
  simp only [finishLong] at read
  split at read
  · exact readsReals_readDecimals _ _ _ _ _ _ read
  · exact readsReals_finishReal _ _ _ _ _ _ read

/-! ## Numbers beyond the words -/

/-- When the number of all digits does not fit, a digit is left over. -/
theorem head?_takeDigits
    {digits : List Char} (all : AllDigits digits) {value : ℕ} (taken : ℕ)
    (small : value < UInt64.size) (large : UInt64.size ≤ Nat.ofDigitChars 10 digits value) :
    (takeDigits value taken digits).2.2.head?.any isDigit = true := by
  induction digits generalizing value taken with
  | nil => exact absurd small (Nat.not_lt.2 large)
  | cons digit digits ih =>
      have known := digit?_of_isDigit (all digit List.mem_cons_self)
      rw [Nat.ofDigitChars_cons, Nat.mul_comm 10] at large
      rw [takeDigits, known]
      dsimp only
      split
      · next fits =>
          exact ih (fun other member => all other (List.mem_cons_of_mem digit member)) _ fits large
      · rw [List.head?_cons, Option.any_some, isDigit, known]
        rfl

/-- The digits of a number beyond the words are read as a real, if at all. -/
theorem exists_real_of_readNumber
    {number : ℕ} (large : UInt64.size ≤ number) {read : Number} {rest : List Char}
    (found : readNumber false (Nat.toDigits 10 number) = some (read, rest)) :
    ∃ value, read = .real value := by
  have positive : 0 < number := Nat.lt_of_lt_of_le (by decide) large
  obtain ⟨first, more, digits, leading⟩ := toDigits_leading positive
  have left := head?_takeDigits (allDigits_toDigits number) 0 (by decide : 0 < UInt64.size)
    (by rwa [ofDigitChars_toDigits])
  rw [digits] at found left
  unfold readNumber at found
  split at found
  · next zero => exact (leading (List.cons.inj zero).1).elim
  · dsimp only at found
    split_ifs at found
    exact readsReals_finishLong _ _ _ _ _ found

/-! ## Texts -/

theorem parse?_toString_of_lt {number : ℕ} (fits : number < UInt64.size) :
    parse? (toString number) = some (Json.number (.natural (UInt64.ofNat number))) := by
  have text : (Json.number (.natural (UInt64.ofNat number))).print = toString number := by
    rw [print, numberText, UInt64.toNat_ofNat_of_lt' fits]
  rw [← text]
  exact parse?_print (.natural _)

/-- No text makes a word out of a number beyond the words. -/
theorem exists_real_of_parse?_toString
    {number : ℕ} (large : UInt64.size ≤ number) {json : Json}
    (found : parse? (toString number) = some json) :
    ∃ value, json = Json.number (.real value) := by
  have digits := Nat.toDigits_ne_nil (n := number) (b := 10)
  obtain ⟨first, more, digits⟩ := List.exists_cons_of_ne_nil digits
  have isDigit := allDigits_toDigits number first (digits ▸ List.mem_cons_self)
  simp only [parse?, toList_toString] at found
  rw [digits, readValue_digit _ _ isDigit, ← digits] at found
  cases reads : readNumber false (Nat.toDigits 10 number) with
  | none =>
      rw [reads] at found
      cases found
  | some result =>
      obtain ⟨value, real⟩ := exists_real_of_readNumber large reads
      rw [reads, Option.map_some] at found
      dsimp only at found
      split at found
      · cases found
        exact ⟨value, congrArg Json.number real⟩
      · cases found

end FrameEval.Json
