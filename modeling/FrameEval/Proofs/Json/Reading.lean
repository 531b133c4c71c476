import FrameEval.Proofs.Json.Text

/-!
# Texts that are read back

The text of a value is read as that value, up to what follows it.  This is shown of values without
reals whose objects have their members in ascending order, as long as arrays and objects are not
nested too deep.  A reader has a bound on its steps; twice as many as there are letters are enough.
-/

namespace FrameEval.Json

/-! ## Numbers -/

/-- A digit has the value that it counts for in a numeral. -/
theorem digit?_of_isDigit {letter : Char} (isDigit : letter.isDigit = true) :
    digit? letter = some (letter.toNat - '0'.toNat) := by
  rw [Char.isDigit, Bool.and_eq_true, decide_eq_true_iff, decide_eq_true_iff] at isDigit
  have bounds : '0' ≤ letter ∧ letter ≤ '9' := isDigit
  have small : letter.toNat - '0'.toNat < 10 := by
    have greatest : letter.toNat ≤ '9'.toNat := bounds.2
    have nine : '9'.toNat = 57 := rfl
    have zero : '0'.toNat = 48 := rfl
    omega
  rw [digit?, Text.digitValue?]
  simp only [if_pos bounds, if_pos small]

/-- What may follow a value does not begin with a digit. -/
theorem Ends.head?_isDigit {rest : List Char} (ends : Ends rest) :
    rest.head?.any isDigit = false := by
  rcases ends with rfl | ⟨mark, more, rfl, isMark⟩
  · rfl
  · simp only [List.mem_cons, List.not_mem_nil, or_false] at isMark
    rcases isMark with rfl | rfl | rfl <;> rfl

theorem le_ofDigitChars (digits : List Char) (value : ℕ) :
    value ≤ Nat.ofDigitChars 10 digits value := by
  induction digits generalizing value with
  | nil => exact Nat.le_refl value
  | cons digit digits ih =>
      rw [Nat.ofDigitChars_cons]
      have later := ih (10 * value + (digit.toNat - '0'.toNat))
      omega

/-- Digits are taken as long as their number fits. -/
theorem takeDigits_append
    {digits rest : List Char} (all : AllDigits digits) (value taken : ℕ)
    (fits : Nat.ofDigitChars 10 digits value < UInt64.size)
    (ends : rest.head?.any isDigit = false) :
    takeDigits value taken (digits ++ rest) =
      (Nat.ofDigitChars 10 digits value, taken + digits.length, rest) := by
  induction digits generalizing value taken with
  | nil =>
      cases rest with
      | nil => rfl
      | cons mark more =>
          have notDigit : digit? mark = none := by simpa [isDigit] using ends
          rw [List.nil_append, takeDigits, notDigit]
          rfl
  | cons digit digits ih =>
      have known := digit?_of_isDigit (all digit List.mem_cons_self)
      rw [Nat.ofDigitChars_cons, Nat.mul_comm 10] at fits ⊢
      have small := Nat.lt_of_le_of_lt (le_ofDigitChars digits _) fits
      rw [List.cons_append, takeDigits, known]
      simp only [if_pos small]
      rw [ih (fun other member => all other (List.mem_cons_of_mem digit member)) _ _ fits,
        List.length_cons, Nat.add_assoc, Nat.add_comm 1]

/-- The numeral of a positive number does not begin with zero. -/
theorem toDigits_leading {number : ℕ} (positive : 0 < number) :
    ∃ first more, Nat.toDigits 10 number = first :: more ∧ first ≠ '0' := by
  induction number using Nat.strong_induction_on with
  | _ number ih =>
      by_cases small : number < 10
      · have each : ∀ digit : Fin 10, 0 < digit.val → digit.val.digitChar ≠ '0' := by decide
        exact ⟨number.digitChar, [], Nat.toDigits_of_lt_base small, each ⟨number, small⟩ positive⟩
      · rcases ih (number / 10) (by omega) (by omega) with ⟨first, more, digits, leading⟩
        rw [Nat.toDigits_of_base_le (by decide) (by omega), digits]
        exact ⟨first, _, rfl, leading⟩

/-- The numeral of a number that fits into a word is read to its end. -/
theorem readNumber_toDigits
    {number : ℕ} (fits : number < UInt64.size) (negative : Bool) {rest : List Char}
    (ends : Ends rest) :
    readNumber negative (Nat.toDigits 10 number ++ rest) = finishNumber negative number rest := by
  rcases Nat.eq_zero_or_pos number with rfl | positive
  · show (if rest.head?.any isDigit = true then none else finishNumber negative 0 rest) = _
    rw [ends.head?_isDigit]
    rfl
  · rcases toDigits_leading positive with ⟨first, more, digits, leading⟩
    have value := ofDigitChars_toDigits number
    have taken := takeDigits_append (allDigits_toDigits number) 0 0 (by rwa [value])
      ends.head?_isDigit
    rw [value, digits] at taken
    rw [digits]
    rw [List.cons_append] at taken ⊢
    unfold readNumber
    split
    · next other front => exact (leading (List.cons.inj front).1).elim
    · rw [taken]
      simp [ends.head?_isDigit]

theorem finishNumber_of_ends
    {negative : Bool} {significand : ℕ} {rest : List Char} (ends : Ends rest) :
    finishNumber negative significand rest =
      if !negative then some (.natural (UInt64.ofNat significand), rest)
      else if significand = 0 ∨ significand > Int64.minValue.toInt.natAbs then
        some (signedReal true (Double.ofInt significand), rest)
      else some (.negative (Int64.ofInt (-significand)), rest) := by
  rcases ends with rfl | ⟨mark, more, rfl, isMark⟩
  · rfl
  · simp only [List.mem_cons, List.not_mem_nil, or_false] at isMark
    rcases isMark with rfl | rfl | rfl <;> rfl

theorem readNumber_natural (value : UInt64) {rest : List Char} (ends : Ends rest) :
    readNumber false ((numberText (.natural value)).toList ++ rest) =
      some (.natural value, rest) := by
  rw [Number.text_natural, readNumber_toDigits value.toNat_lt false ends,
    finishNumber_of_ends ends, UInt64.ofNat_toNat]
  rfl

/-- The digits of a negative number, after its sign. -/
theorem readNumber_negative
    {value : Int64} (negative : value < 0) {rest : List Char} (ends : Ends rest) :
    readNumber true (Nat.toDigits 10 value.toInt.natAbs ++ rest) =
      some (.negative value, rest) := by
  have below := Int64.lt_iff_toInt_lt.1 negative
  rw [Int64.toInt_zero] at below
  have least := value.minValue_le_toInt
  have limit : Int64.minValue.toInt = -9223372036854775808 := rfl
  have fits : value.toInt.natAbs < UInt64.size := by
    rw [show UInt64.size = 18446744073709551616 from rfl]
    omega
  have within : ¬ (value.toInt.natAbs = 0 ∨
      value.toInt.natAbs > Int64.minValue.toInt.natAbs) := by omega
  have same : -((value.toInt.natAbs : ℕ) : ℤ) = value.toInt := by omega
  rw [readNumber_toDigits fits true ends, finishNumber_of_ends ends]
  simp only [Bool.not_true, Bool.false_eq_true, if_false, if_neg within, same,
    Int64.ofInt_toInt]

/-! ## Strings -/

/-- An escaped letter takes one step. -/
theorem readString_escape (bound : ℕ) (before : List Char) (letter : Char) (rest : List Char) :
    readString (bound + 1) before ((escape letter).toList ++ rest) =
      readString bound (letter :: before) rest := by
  by_cases control : letter.toNat < 0x20
  · have each : ∀ code : Fin 32,
        readString (bound + 1) before ((escape (Char.ofNat code)).toList ++ rest) =
          readString bound (Char.ofNat code :: before) rest := by
      intro code
      fin_cases code <;> rfl
    have read := each ⟨letter.toNat, control⟩
    rwa [Char.ofNat_toNat] at read
  · by_cases quote : letter = '"'
    · rw [quote]
      rfl
    · by_cases backslash : letter = '\\'
      · rw [backslash]
        rfl
      · rw [escape_of_printable control quote backslash, String.toList_singleton]
        show readString (bound + 1) before (letter :: rest) = _
        rw [readString]
        · simp only [if_neg backslash, if_neg control]
        · intro front
          exact quote front

/-- A string is read to its closing quote. -/
theorem readString_escaped
    (bound : ℕ) (text before rest : List Char) (enough : text.length ≤ bound) :
    readString bound before (escaped text ++ '"' :: rest) =
      some (String.ofList (before.reverse ++ text), rest) := by
  induction text generalizing before bound with
  | nil =>
      rw [List.append_nil]
      cases bound <;> rfl
  | cons letter text ih =>
      cases bound with
      | zero => cases enough
      | succ bound =>
          rw [escaped, List.flatMap_cons, List.append_assoc, readString_escape]
          have read := ih bound (letter :: before) (Nat.le_of_succ_le_succ enough)
          rw [List.reverse_cons, List.append_assoc] at read
          exact read

theorem length_le_escaped (text : List Char) : text.length ≤ (escaped text).length := by
  induction text with
  | nil => exact Nat.le_refl 0
  | cons letter text ih =>
      have some' : (escape letter).toList ≠ [] := by
        intro none
        have read := readLetter_escape letter []
        rw [none] at read
        cases read
      have positive := List.length_pos_iff.2 some'
      rw [escaped, List.flatMap_cons, List.length_append, List.length_cons]
      rw [escaped] at ih
      omega

/-! ## Openings of values -/

theorem readValue_string (bound depth : ℕ) (letters : List Char) :
    readValue (bound + 1) depth ('"' :: letters) =
      (readString bound [] letters).map fun (text, rest) => (string text, rest) := rfl

theorem readValue_negative (bound depth : ℕ) (letters : List Char) :
    readValue (bound + 1) depth ('-' :: letters) =
      (readNumber true letters).map fun (value, rest) => (number value, rest) := rfl

theorem readValue_array (bound depth : ℕ) (letters : List Char) :
    readValue (bound + 1) (depth + 1) ('[' :: letters) =
      match skipSpace letters with
      | ']' :: rest => some (array [], rest)
      | rest => readItems bound depth [] rest := rfl

theorem readValue_object (bound depth : ℕ) (letters : List Char) :
    readValue (bound + 1) (depth + 1) ('\x7b' :: letters) =
      match skipSpace letters with
      | '\x7d' :: rest => some (object [], rest)
      | rest => readMembers bound depth [] rest := rfl

/-- What begins with a digit is a number. -/
theorem readValue_digit
    (bound depth : ℕ) {letter : Char} (isDigit : letter.isDigit = true) (letters : List Char) :
    readValue (bound + 1) depth (letter :: letters) =
      (readNumber false (letter :: letters)).map fun (value, rest) => (number value, rest) := by
  have each : ∀ digit : Fin 10,
      readValue (bound + 1) depth (Char.ofNat (48 + digit) :: letters) =
        (readNumber false (Char.ofNat (48 + digit) :: letters)).map fun (value, rest) =>
          (number value, rest) := by
    intro digit
    fin_cases digit <;> rfl
  rw [Char.isDigit, Bool.and_eq_true, decide_eq_true_iff, decide_eq_true_iff] at isDigit
  have least : 48 ≤ letter.toNat := isDigit.1
  have greatest : letter.toNat ≤ 57 := isDigit.2
  have same : 48 + (letter.toNat - 48) = letter.toNat := by omega
  have read := each ⟨letter.toNat - 48, by omega⟩
  rw [same, Char.ofNat_toNat] at read
  exact read

/-- No white space comes before a value. -/
theorem skipSpace_print {value : Json} (proper : value.IsProper) (more : List Char) :
    skipSpace (value.print.toList ++ more) = value.print.toList ++ more := by
  rcases proper.starts with ⟨first, rest, text, kind⟩
  have notSpace : ∀ space ∈ [' ', '\n', '\t', '\r'], first ≠ space := by
    rintro space member rfl
    have none : ∀ space ∈ [' ', '\n', '\t', '\r'], Kind.ofLetter? space = none := by
      simp [Kind.ofLetter?]
    rw [none first member] at kind
    cases kind
  rw [text, List.cons_append, skipSpace, List.dropWhile_cons_of_neg]
  simpa [and_assoc] using notSpace

/-! ## Values -/

/-- Values without reals, with the members of each object in ascending order, in which arrays and
objects are nested at most so deep. -/
inductive Ordinary : ℕ → Json → Prop where
  | null {depth : ℕ} : Ordinary depth null
  | bool {depth : ℕ} (value : Bool) : Ordinary depth (bool value)
  | natural {depth : ℕ} (value : UInt64) : Ordinary depth (number (.natural value))
  | negative {depth : ℕ} {value : Int64} (below : value < 0) :
      Ordinary depth (number (.negative value))
  | string {depth : ℕ} (value : String) : Ordinary depth (string value)
  | array {depth : ℕ} {items : List Json} (all : ∀ item ∈ items, Ordinary depth item) :
      Ordinary (depth + 1) (array items)
  | object
      {depth : ℕ} {members : List (String × Json)}
      (sorted : members.Pairwise fun member other => member.1 < other.1)
      (all : ∀ member ∈ members, Ordinary depth member.2) :
      Ordinary (depth + 1) (object members)

theorem Ordinary.isProper {depth : ℕ} {value : Json} (ordinary : Ordinary depth value) :
    value.IsProper := by
  induction ordinary with
  | null => exact .null
  | bool value => exact .bool value
  | natural value => exact .number trivial
  | negative below => exact .number below
  | string value => exact .string value
  | array _ ih => exact .array ih
  | object _ _ ih => exact .object ih

/-- Whether the text of a value is read as that value, up to what follows it. -/
def IsReadBack (depth : ℕ) (value : Json) : Prop :=
  ∀ bound rest, Ends rest → 2 * value.print.toList.length ≤ bound →
    readValue bound depth (value.print.toList ++ rest) = some (value, rest)

theorem listed_cons_cons
    {α : Type} (code : α → List Char) (item next : α) (items : List α) :
    listed code (item :: next :: items) = code item ++ ',' :: listed code (next :: items) := by
  simp [listed, following]

/-- The items of an array are read one after another. -/
theorem readItems_listed
    {depth : ℕ} {item : Json} {items : List Json}
    (back : ∀ one ∈ item :: items, IsReadBack depth one) (before : List Json) (bound : ℕ)
    (rest : List Char)
    (enough : 2 * (listed (fun item => item.print.toList) (item :: items)).length + 1 ≤ bound) :
    readItems bound depth before
        (listed (fun item => item.print.toList) (item :: items) ++ ']' :: rest) =
      some (array (before.reverse ++ item :: items), rest) := by
  induction items generalizing item before bound with
  | nil =>
      cases bound with
      | zero => cases enough
      | succ bound =>
          simp only [listed, following, List.flatMap_nil, List.append_nil] at enough ⊢
          have read := back item List.mem_cons_self bound (']' :: rest)
            (ends_cons (by decide) rest) (by omega)
          rw [readItems, read]
          show some (array (item :: before).reverse, rest) = _
          rw [List.reverse_cons]
  | cons next items ih =>
      cases bound with
      | zero => cases enough
      | succ bound =>
          rw [listed_cons_cons] at enough ⊢
          rw [List.length_append, List.length_cons] at enough
          have read := back item List.mem_cons_self bound
            (',' :: listed (fun item => item.print.toList) (next :: items) ++ ']' :: rest)
            (ends_cons (by decide) _) (by omega)
          have further := ih (fun one member => back one (List.mem_cons_of_mem item member))
            (item :: before) bound (by omega)
          rw [List.append_assoc, readItems, read]
          rw [List.reverse_cons, List.append_assoc] at further
          exact further

/-- A member with a greater name than those before comes last. -/
theorem setMember_of_greatest
    {name : String} {before : List (String × Json)} (greatest : ∀ member ∈ before, member.1 < name)
    (value : Json) : setMember name value before = before ++ [(name, value)] := by
  induction before with
  | nil => rfl
  | cons first before ih =>
      have below := greatest first List.mem_cons_self
      have differs : name ≠ first.1 := by
        rintro rfl
        exact String.lt_irrefl _ below
      rw [setMember, if_neg differs, if_neg (String.lt_asymm below),
        ih fun member listed => greatest member (List.mem_cons_of_mem first listed)]
      rfl

/-- The name of a member is read before its value. -/
theorem readMembers_member
    {depth : ℕ} {member : String × Json} (back : IsReadBack depth member.2)
    (before : List (String × Json)) {bound : ℕ} {more : List Char} (ends : Ends more)
    (enough : 2 * (memberLetters member).length ≤ bound) :
    readMembers (bound + 1) depth before (memberLetters member ++ more) =
      match skipSpace more with
      | ',' :: rest => readMembers bound depth (setMember member.1 member.2 before) rest
      | '\x7d' :: rest => some (object (setMember member.1 member.2 before), rest)
      | _ => none := by
  rw [memberLetters, List.length_append, List.length_cons, toList_quoted, List.length_cons,
    List.length_append] at enough
  have short := length_le_escaped member.1.toList
  have name := readString_escaped bound member.1.toList []
    (':' :: (member.2.print.toList ++ more)) (by omega)
  rw [List.reverse_nil, List.nil_append, String.ofList_toList] at name
  have value := back bound more ends (by omega)
  have letters : memberLetters member ++ more =
      '"' :: (escaped member.1.toList ++ '"' :: ':' :: (member.2.print.toList ++ more)) := by
    simp [memberLetters, toList_quoted]
  have quote : ∀ rest, skipSpace ('"' :: rest) = '"' :: rest := fun _ => rfl
  have colon : ∀ rest, skipSpace (':' :: rest) = ':' :: rest := fun _ => rfl
  rw [letters]
  simp only [readMembers, quote, name, colon]
  rewrite [value]
  rfl

/-- The members of an object are read one after another. -/
theorem readMembers_listed
    {depth : ℕ} {member : String × Json} {members : List (String × Json)}
    (back : ∀ one ∈ member :: members, IsReadBack depth one.2) (before : List (String × Json))
    (sorted : (before ++ member :: members).Pairwise fun member other => member.1 < other.1)
    (bound : ℕ) (rest : List Char)
    (enough : 2 * (listed memberLetters (member :: members)).length + 1 ≤ bound) :
    readMembers bound depth before
        (listed memberLetters (member :: members) ++ '\x7d' :: rest) =
      some (object (before ++ member :: members), rest) := by
  induction members generalizing member before bound with
  | nil =>
      cases bound with
      | zero => cases enough
      | succ bound =>
          have greatest := (List.pairwise_append.1 sorted).2.2
          simp only [listed, following, List.flatMap_nil, List.append_nil] at enough ⊢
          rw [readMembers_member (back member List.mem_cons_self) before
            (ends_cons (by decide) rest) (by omega),
            setMember_of_greatest fun other listed =>
              greatest other listed member List.mem_cons_self]
          rfl
  | cons next members ih =>
      cases bound with
      | zero => cases enough
      | succ bound =>
          have greatest := (List.pairwise_append.1 sorted).2.2
          rw [listed_cons_cons] at enough ⊢
          rw [List.length_append, List.length_cons] at enough
          rw [List.append_assoc, List.cons_append,
            readMembers_member (back member List.mem_cons_self) before
            (ends_cons (by decide) _) (by omega),
            setMember_of_greatest fun other listed =>
              greatest other listed member List.mem_cons_self]
          have further := ih (fun one listed => back one (List.mem_cons_of_mem member listed))
            (before ++ [member]) (by simpa using sorted) bound (by omega)
          rw [List.append_assoc] at further
          exact further

/-- A text has letters, so there is a step to read it. -/
theorem isReadBack_of_succ
    {depth : ℕ} {value : Json} (proper : value.IsProper)
    (reads : ∀ bound rest, Ends rest → 2 * value.print.toList.length ≤ bound + 1 →
      readValue (bound + 1) depth (value.print.toList ++ rest) = some (value, rest)) :
    IsReadBack depth value := by
  intro bound rest ends enough
  cases bound with
  | zero =>
      rcases proper.starts with ⟨first, more, text, -⟩
      rw [text, List.length_cons] at enough
      omega
  | succ bound => exact reads bound rest ends enough

theorem isReadBack_natural (depth : ℕ) (value : UInt64) :
    IsReadBack depth (number (.natural value)) := by
  have proper : (Number.natural value).IsProper := trivial
  apply isReadBack_of_succ (.number proper)
  intro bound rest ends _
  have read := readNumber_natural value ends
  rw [print]
  rw [Number.text_natural] at read ⊢
  rcases List.exists_cons_of_ne_nil (Nat.toDigits_ne_nil (n := value.toNat) (b := 10)) with
    ⟨first, more, digits⟩
  have isDigit := allDigits_toDigits value.toNat first (digits ▸ List.mem_cons_self)
  rw [digits, List.cons_append] at read ⊢
  rw [readValue_digit bound depth isDigit, read]
  rfl

theorem isReadBack_negative (depth : ℕ) {value : Int64} (below : value < 0) :
    IsReadBack depth (number (.negative value)) := by
  have proper : (Number.negative value).IsProper := below
  apply isReadBack_of_succ (.number proper)
  intro bound rest ends _
  rw [print, Number.text_negative below, List.cons_append, readValue_negative,
    readNumber_negative below ends]
  rfl

theorem isReadBack_string (depth : ℕ) (value : String) : IsReadBack depth (string value) := by
  apply isReadBack_of_succ (.string value)
  intro bound rest ends enough
  have short := length_le_escaped value.toList
  rw [print, toList_quoted, List.length_cons, List.length_append] at enough
  rw [print, toList_quoted, List.cons_append, List.append_assoc, readValue_string,
    List.singleton_append, readString_escaped _ _ _ _ (by omega), List.reverse_nil,
    List.nil_append, String.ofList_toList]
  rfl

theorem isReadBack_array
    {depth : ℕ} {items : List Json} (proper : ∀ item ∈ items, item.IsProper)
    (back : ∀ item ∈ items, IsReadBack depth item) : IsReadBack (depth + 1) (array items) := by
  apply isReadBack_of_succ (.array proper)
  intro bound rest ends enough
  rw [toList_print_array, List.length_cons, List.length_append] at enough
  rw [toList_print_array, List.cons_append, List.append_assoc, List.singleton_append,
    readValue_array]
  cases items with
  | nil => rfl
  | cons item items =>
      have first := proper item List.mem_cons_self
      have read := readItems_listed back [] bound rest (by
        rw [List.length_singleton] at enough
        omega)
      rw [listed, List.append_assoc] at read ⊢
      rw [skipSpace_print first]
      split
      · next close => exact (first.opens List.mem_cons_self _ _ close).elim
      · exact read

theorem isReadBack_object
    {depth : ℕ} {members : List (String × Json)}
    (sorted : members.Pairwise fun member other => member.1 < other.1)
    (proper : ∀ member ∈ members, member.2.IsProper)
    (back : ∀ member ∈ members, IsReadBack depth member.2) :
    IsReadBack (depth + 1) (object members) := by
  apply isReadBack_of_succ (.object proper)
  intro bound rest ends enough
  rw [toList_print_object, List.length_cons, List.length_append] at enough
  rw [toList_print_object, List.cons_append, List.append_assoc, List.singleton_append,
    readValue_object]
  cases members with
  | nil => rfl
  | cons member members =>
      have read := readMembers_listed back [] sorted bound rest (by
        rw [List.length_singleton] at enough
        omega)
      rw [listed, memberLetters, toList_quoted] at read ⊢
      exact read

/-- The text of an ordinary value is read as that value. -/
theorem Ordinary.isReadBack
    {depth : ℕ} {value : Json} (ordinary : Ordinary depth value) : IsReadBack depth value := by
  induction ordinary with
  | null =>
      apply isReadBack_of_succ .null
      intro bound rest _ _
      rfl
  | bool value =>
      apply isReadBack_of_succ (.bool value)
      intro bound rest _ _
      cases value <;> rfl
  | natural value => exact isReadBack_natural _ value
  | negative below => exact isReadBack_negative _ below
  | string value => exact isReadBack_string _ value
  | array all ih => exact isReadBack_array (fun item member => (all item member).isProper) ih
  | object sorted all ih =>
      exact isReadBack_object sorted (fun member listed => (all member listed).isProper) ih

/-- An ordinary value that is not nested too deep is the value of its text. -/
theorem parse?_print {value : Json} (ordinary : Ordinary maximumDepth value) :
    parse? value.print = some value := by
  have read := ordinary.isReadBack (2 * value.print.toList.length + 2) [] (.inl rfl) (by omega)
  rw [List.append_nil] at read
  simp only [parse?, read]
  rfl

end FrameEval.Json
