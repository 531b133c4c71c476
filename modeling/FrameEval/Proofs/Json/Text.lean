import FrameEval.Json.Parser
import FrameEval.Proofs.Json.Real
import Mathlib.Tactic.FinCases

/-!
# The texts of values

The text of a value tells the value.  A text is read from its front: the first letter tells the
kind of the value, a number ends where no letter of a number follows, a string at the first
quote that is not escaped, and an array or an object at the bracket that comes in place of a
comma.  So what follows a value need not be known to tell where the value ends.
-/

namespace FrameEval.Json

/--
Whether a number has one of the forms that a text is read as: an integer is negative only below
zero, and a real is finite.
-/
def Number.IsProper : Number → Prop
  | .natural _ => True
  | .negative value => value < 0
  | .real value => IsFinite value

/-- Whether all numbers of a value are proper. -/
inductive IsProper : Json → Prop
  | null : IsProper null
  | bool (value : Bool) : IsProper (bool value)
  | number {value : Number} (proper : value.IsProper) : IsProper (number value)
  | string (value : String) : IsProper (string value)
  | array {items : List Json} (proper : ∀ item ∈ items, IsProper item) : IsProper (array items)
  | object {members : List (String × Json)} (proper : ∀ member ∈ members, IsProper member.2) :
      IsProper (object members)

/-! ## Numbers -/

theorem toString_negative {number : ℤ} (negative : number < 0) :
    (toString number).toList = '-' :: Nat.toDigits 10 number.natAbs := by
  cases number with
  | ofNat number => exact absurd negative (Int.not_lt.2 (Int.natCast_nonneg number))
  | negSucc number =>
      have text : toString (Int.negSucc number) = "-" ++ toString (number + 1) := rfl
      rw [text, String.toList_append, toList_toString]
      rfl

theorem toDigits_injective {number other : ℕ}
    (same : Nat.toDigits 10 number = Nat.toDigits 10 other) : number = other := by
  rw [← ofDigitChars_toDigits number, same, ofDigitChars_toDigits]

/-- A real is not written like an integer. -/
theorem realText_ne_integer
    {value : Double} (finite : IsFinite value) (digits : List Char) (all : AllDigits digits)
    (negative : Bool) :
    (realText value).toList ≠ (if negative then ['-'] else []) ++ digits := by
  intro same
  rcases finite with ⟨sign, significand, exponent, decoded⟩
  rw [realText_eq decoded] at same
  have denotes := denotes_magnitudeText significand exponent
  rcases denotes.marked with ⟨mark, member, notDigit⟩
  cases sign <;> cases negative
  · have text : (magnitudeText significand exponent).toList = digits := same
    rw [text] at member
    exact all.ne member notDigit rfl
  · exact denotes.ne_signed same
  · have text : '-' :: (magnitudeText significand exponent).toList = digits := same
    have first : '-' ∈ digits := text ▸ List.mem_cons_self
    exact all.ne first (by decide) rfl
  · have text : (magnitudeText significand exponent).toList = digits :=
      (List.cons.inj same).2
    rw [text] at member
    exact all.ne member notDigit rfl

namespace Number

variable {value other : Number}

/-- The negative integers are told by their absolute values. -/
theorem natAbs_injective {value other : Int64} (negative : value < 0) (negative' : other < 0)
    (same : value.toInt.natAbs = other.toInt.natAbs) : value = other := by
  have below := Int64.lt_iff_toInt_lt.1 negative
  have below' := Int64.lt_iff_toInt_lt.1 negative'
  rw [Int64.toInt_zero] at below below'
  exact Int64.toInt_inj.1 (by omega)

theorem text_natural (value : UInt64) :
    (numberText (.natural value)).toList = Nat.toDigits 10 value.toNat :=
  toList_toString _

theorem text_negative {value : Int64} (negative : value < 0) :
    (numberText (.negative value)).toList = '-' :: Nat.toDigits 10 value.toInt.natAbs := by
  have below := Int64.lt_iff_toInt_lt.1 negative
  rw [Int64.toInt_zero] at below
  exact toString_negative below

/-- The text of a number tells it. -/
theorem text_injective (proper : value.IsProper) (proper' : other.IsProper)
    (same : (numberText value).toList = (numberText other).toList) : value = other := by
  cases value with
  | natural value =>
      rw [text_natural] at same
      cases other with
      | natural other =>
          rw [text_natural] at same
          rw [UInt64.toNat_inj.1 (toDigits_injective same)]
      | negative other =>
          rw [text_negative proper'] at same
          have first : '-' ∈ Nat.toDigits 10 value.toNat := same ▸ List.mem_cons_self
          exact ((allDigits_toDigits _).ne first (by decide) rfl).elim
      | real other =>
          exact (realText_ne_integer proper' _ (allDigits_toDigits _) false same.symm).elim
  | negative value =>
      rw [text_negative proper] at same
      cases other with
      | natural other =>
          rw [text_natural] at same
          have first : '-' ∈ Nat.toDigits 10 other.toNat := same ▸ List.mem_cons_self
          exact ((allDigits_toDigits _).ne first (by decide) rfl).elim
      | negative other =>
          rw [text_negative proper'] at same
          have absolute := toDigits_injective (List.cons.inj same).2
          rw [natAbs_injective proper proper' absolute]
      | real other =>
          exact (realText_ne_integer proper' _ (allDigits_toDigits _) true same.symm).elim
  | real value =>
      cases other with
      | natural other =>
          rw [text_natural] at same
          exact (realText_ne_integer proper _ (allDigits_toDigits _) false same).elim
      | negative other =>
          rw [text_negative proper'] at same
          exact (realText_ne_integer proper _ (allDigits_toDigits _) true same).elim
      | real other =>
          rw [realText_injective proper proper' (String.toList_inj.1 same)]

/-- The text of a number begins with a digit or a minus sign. -/
theorem text_starts (proper : value.IsProper) :
    ∃ first rest, (numberText value).toList = first :: rest ∧
      (first.isDigit = true ∨ first = '-') := by
  cases value with
  | natural value =>
      rcases List.exists_cons_of_ne_nil (Nat.toDigits_ne_nil (n := value.toNat) (b := 10))
        with ⟨first, rest, text⟩
      have digit := allDigits_toDigits value.toNat first (text ▸ List.mem_cons_self)
      exact ⟨first, rest, (text_natural value).trans text, .inl digit⟩
  | negative value => exact ⟨'-', _, text_negative proper, .inr rfl⟩
  | real value =>
      rcases proper with ⟨negative, significand, exponent, decoded⟩
      rcases (denotes_magnitudeText significand exponent).starts with ⟨first, rest, text, digit⟩
      have letters := realText_eq decoded
      rw [text] at letters
      cases negative with
      | true => exact ⟨'-', _, letters, .inr rfl⟩
      | false => exact ⟨first, rest, letters, .inl digit⟩

/-- The text of a number has only letters of numbers. -/
theorem text_numeric (proper : value.IsProper) :
    ∀ letter ∈ (numberText value).toList, Numeric letter := by
  have signed : ∀ digits : List Char, (∀ letter ∈ digits, Numeric letter) →
      ∀ letter ∈ '-' :: digits, Numeric letter :=
    fun digits numeric => List.forall_mem_cons.2 ⟨.inr (by decide), numeric⟩
  cases value with
  | natural value =>
      rw [text_natural]
      exact (allDigits_toDigits _).numeric
  | negative value =>
      rw [text_negative proper]
      exact signed _ (allDigits_toDigits _).numeric
  | real value =>
      rcases proper with ⟨negative, significand, exponent, decoded⟩
      have numeric := (denotes_magnitudeText significand exponent).numeric
      rw [numberText, realText_eq decoded]
      cases negative with
      | true => exact signed _ numeric
      | false => exact numeric

end Number

/-! ## Strings -/

/-- The next letter of a string, if it does not end here, and what follows. -/
def readLetter : Reader (Option Char)
  | [] => none
  | '"' :: rest => some (none, rest)
  | '\\' :: rest => (readEscape rest).map fun (letter, rest) => (some letter, rest)
  | letter :: rest => some (some letter, rest)

/-- The control characters that have no letter of their own are escaped by their number. -/
theorem readLetter_control (code : Fin 32) (rest : List Char) :
    readLetter ((escape (Char.ofNat code)).toList ++ rest) =
      some (some (Char.ofNat code), rest) := by
  fin_cases code <;> rfl

/-- Other letters stand for themselves, but for quotes and backslashes. -/
theorem escape_of_printable
    {letter : Char} (printable : ¬ letter.toNat < 0x20) (quote : letter ≠ '"')
    (backslash : letter ≠ '\\') : escape letter = String.singleton letter := by
  have above : ¬ letter.toNat < 0x10 := by omega
  unfold escape
  split
  · exact absurd rfl quote
  · exact absurd rfl backslash
  all_goals first
    | exact absurd (by decide) printable
    | rw [if_neg above, if_neg printable]

theorem readLetter_of_plain
    {letter : Char} (quote : letter ≠ '"') (backslash : letter ≠ '\\') (rest : List Char) :
    readLetter (letter :: rest) = some (some letter, rest) := by
  unfold readLetter
  split
  · next nothing => cases nothing
  · next front => exact absurd (List.cons.inj front).1 quote
  · next front => exact absurd (List.cons.inj front).1 backslash
  · next front =>
      cases front
      rfl

/-- An escaped letter is read back. -/
theorem readLetter_escape (letter : Char) (rest : List Char) :
    readLetter ((escape letter).toList ++ rest) = some (some letter, rest) := by
  by_cases control : letter.toNat < 0x20
  · have read := readLetter_control ⟨letter.toNat, control⟩ rest
    rwa [Char.ofNat_toNat] at read
  · by_cases quote : letter = '"'
    · rw [quote]
      rfl
    · by_cases backslash : letter = '\\'
      · rw [backslash]
        rfl
      · rw [escape_of_printable control quote backslash, String.toList_singleton]
        exact readLetter_of_plain quote backslash rest

/-- The letters of a string with what needs an escape escaped. -/
def escaped (text : List Char) : List Char :=
  text.flatMap fun letter => (escape letter).toList

theorem readLetter_escaped (letter : Char) (text rest : List Char) :
    readLetter (escaped (letter :: text) ++ rest) = some (some letter, escaped text ++ rest) := by
  rw [escaped, List.flatMap_cons, List.append_assoc, readLetter_escape]
  rfl

/-- A string ends at the first quote that is not escaped. -/
theorem escaped_unique
    (text other : List Char) {rest rest' : List Char}
    (same : escaped text ++ '"' :: rest = escaped other ++ '"' :: rest') :
    text = other ∧ rest = rest' := by
  have read := congrArg readLetter same
  induction text generalizing other with
  | nil =>
      cases other with
      | nil => exact ⟨rfl, (List.cons.inj same).2⟩
      | cons letter other =>
          rw [readLetter_escaped] at read
          cases read
  | cons letter text ih =>
      rw [readLetter_escaped] at read
      cases other with
      | nil => cases read
      | cons letter' other =>
          rw [readLetter_escaped] at read
          have parts := Prod.mk.inj (Option.some.inj read)
          rcases ih other parts.2 (congrArg readLetter parts.2) with ⟨texts, rests⟩
          exact ⟨congrArg₂ List.cons (Option.some.inj parts.1) texts, rests⟩

theorem toList_quoted (text : String) :
    (quoted text).toList =
      '"' :: (escaped text.toList ++ ['"']) := by
  rw [quoted, String.toList_append, String.toList_append, String.toList_join, List.flatMap_map]
  rfl

/-- The text of a string tells the string and where it ends. -/
theorem quoted_unique
    {text other : String} {rest rest' : List Char}
    (same : (quoted text).toList ++ rest = (quoted other).toList ++ rest') :
    text = other ∧ rest = rest' := by
  rw [toList_quoted, toList_quoted, List.cons_append, List.cons_append, List.append_assoc,
    List.append_assoc] at same
  rcases escaped_unique _ _ (List.cons.inj same).2 with ⟨letters, rests⟩
  exact ⟨String.toList_inj.1 letters, rests⟩

/-! ## Kinds of values -/

/-- What the first letter of a text tells. -/
inductive Kind where
  | null
  | bool (value : Bool)
  | number
  | string
  | array
  | object

/-- The kind of a value. -/
def kind : Json → Kind
  | null => .null
  | bool value => .bool value
  | number _ => .number
  | string _ => .string
  | array _ => .array
  | object _ => .object

/-- The kind of the values whose texts begin with a letter. -/
def Kind.ofLetter? (letter : Char) : Option Kind :=
  if letter.isDigit = true ∨ letter = '-' then some .number
  else
    match letter with
    | 'n' => some .null
    | 't' => some (.bool true)
    | 'f' => some (.bool false)
    | '"' => some .string
    | '[' => some .array
    | '\x7b' => some .object
    | _ => none

/-! ## Lists -/

/-- Whether a text may follow a value: it is empty or begins with a comma or a bracket. -/
def Ends (rest : List Char) : Prop :=
  rest = [] ∨ ∃ mark more, rest = mark :: more ∧ mark ∈ [',', ']', '\x7d']

theorem ends_cons {mark : Char} (isMark : mark ∈ [',', ']', '\x7d']) (more : List Char) :
    Ends (mark :: more) :=
  .inr ⟨mark, more, rfl, isMark⟩

section

variable {α : Type} {code : α → List Char}

/-- The rest of a list: each item stands behind a comma. -/
def following (code : α → List Char) (items : List α) : List Char :=
  items.flatMap fun item => ',' :: code item

/-- A list with commas between its items. -/
def listed (code : α → List Char) : List α → List Char
  | [] => []
  | item :: rest => code item ++ following code rest

theorem toList_intercalate (texts : List String) :
    (String.intercalate "," texts).toList = listed String.toList texts := by
  rw [String.toList_intercalate]
  cases texts with
  | nil => rfl
  | cons text texts =>
      induction texts generalizing text with
      | nil => simp [listed, following, List.intercalate]
      | cons next texts ih =>
          rw [List.map_cons, List.map_cons, List.intercalate_cons_cons, ← List.map_cons, ih]
          simp [listed, following]

theorem listed_map {β : Type} (text : β → α) (items : List β) :
    listed code (items.map text) = listed (fun item => code (text item)) items := by
  cases items with
  | nil => rfl
  | cons item items => simp [listed, following, List.flatMap_map]

variable {close : Char}

theorem ends_following (isClose : close ∈ [']', '\x7d']) (items : List α) (rest : List Char) :
    Ends (following code items ++ close :: rest) := by
  cases items with
  | nil => exact ends_cons (List.mem_cons_of_mem _ isClose) rest
  | cons item items => exact ends_cons List.mem_cons_self _

/-- Whether the text of an item tells it, whatever follows. -/
def TellsItem (code : α → List Char) (item other : α) : Prop :=
  ∀ rest rest', Ends rest → Ends rest' →
    code item ++ rest = code other ++ rest' → item = other ∧ rest = rest'

/-- The rest of a list ends at its bracket. -/
theorem following_unique
    (isClose : close ∈ [']', '\x7d']) {items others : List α} {rest rest' : List Char}
    (tells : ∀ item ∈ items, ∀ other ∈ others, TellsItem code item other)
    (same : following code items ++ close :: rest = following code others ++ close :: rest') :
    items = others ∧ rest = rest' := by
  have noComma : ',' ≠ close := by
    rintro rfl
    exact absurd isClose (by decide)
  induction items generalizing others with
  | nil =>
      cases others with
      | nil => exact ⟨rfl, (List.cons.inj same).2⟩
      | cons other others => exact absurd (List.cons.inj same).1.symm noComma
  | cons item items ih =>
      cases others with
      | nil => exact absurd (List.cons.inj same).1 noComma
      | cons other others =>
          rw [following, following, List.flatMap_cons, List.flatMap_cons, List.append_assoc,
            List.append_assoc] at same
          rcases tells item List.mem_cons_self other List.mem_cons_self _ _
            (ends_following isClose items rest) (ends_following isClose others rest')
            (List.cons.inj same).2 with ⟨first, more⟩
          rcases ih (fun item member other member' => tells item (List.mem_cons_of_mem _ member)
            other (List.mem_cons_of_mem _ member')) more with ⟨items, rests⟩
          exact ⟨congrArg₂ List.cons first items, rests⟩

/-- A list ends at its bracket. -/
theorem listed_unique
    (isClose : close ∈ [']', '\x7d']) {items others : List α} {rest rest' : List Char}
    (opens : ∀ item ∈ items ++ others, ∀ more more', code item ++ more ≠ close :: more')
    (tells : ∀ item ∈ items, ∀ other ∈ others, TellsItem code item other)
    (same : listed code items ++ close :: rest = listed code others ++ close :: rest') :
    items = others ∧ rest = rest' := by
  cases items with
  | nil =>
      cases others with
      | nil => exact ⟨rfl, (List.cons.inj same).2⟩
      | cons other others =>
          rw [listed, listed, List.append_assoc] at same
          exact (opens other List.mem_cons_self _ _ same.symm).elim
  | cons item items =>
      cases others with
      | nil =>
          rw [listed, listed, List.append_assoc] at same
          exact (opens item List.mem_cons_self _ _ same).elim
      | cons other others =>
          apply following_unique isClose tells
          exact congrArg (List.cons ',') same

end

/-! ## Values -/

/-- The text of a member of an object. -/
def memberLetters (member : String × Json) : List Char :=
  (quoted member.1).toList ++ ':' :: member.2.print.toList

theorem printItems_eq_map (items : List Json) : printItems items = items.map print := by
  induction items with
  | nil => rfl
  | cons item items ih => rw [printItems, ih, List.map_cons]

theorem printMembers_eq_map (members : List (String × Json)) :
    printMembers members =
      members.map fun member => quoted member.1 ++ ":" ++ member.2.print := by
  induction members with
  | nil => rfl
  | cons member members ih => rw [printMembers, ih, List.map_cons]

theorem toList_print_array (items : List Json) :
    (array items).print.toList =
      '[' :: (listed (fun item => item.print.toList) items ++ [']']) := by
  rw [print, String.toList_append, String.toList_append, toList_intercalate, printItems_eq_map,
    listed_map]
  rfl

theorem toList_print_object (members : List (String × Json)) :
    (object members).print.toList = '\x7b' :: (listed memberLetters members ++ ['\x7d']) := by
  have letters : (fun member : String × Json =>
      (quoted member.1 ++ ":" ++ member.2.print).toList) = memberLetters := by
    funext member
    rw [String.toList_append, String.toList_append, List.append_assoc]
    rfl
  rw [print, String.toList_append, String.toList_append, toList_intercalate,
    printMembers_eq_map, listed_map, letters]
  rfl

/-- The first letter of a text tells the kind of the value. -/
theorem IsProper.starts {value : Json} (proper : value.IsProper) :
    ∃ first rest, value.print.toList = first :: rest ∧
      Kind.ofLetter? first = some value.kind := by
  cases proper with
  | null => exact ⟨'n', _, rfl, rfl⟩
  | bool value =>
      cases value with
      | true => exact ⟨'t', _, rfl, rfl⟩
      | false => exact ⟨'f', _, rfl, rfl⟩
  | number proper =>
      rcases Number.text_starts proper with ⟨first, rest, text, starts⟩
      exact ⟨first, rest, text, if_pos starts⟩
  | string value => exact ⟨'"', _, toList_quoted value, rfl⟩
  | array => exact ⟨'[', _, toList_print_array _, rfl⟩
  | object => exact ⟨'\x7b', _, toList_print_object _, rfl⟩

/-- Values with the same text, whatever follows it, are of the same kind. -/
theorem IsProper.kind_eq
    {value other : Json} (proper : value.IsProper) (proper' : other.IsProper)
    {rest rest' : List Char}
    (same : value.print.toList ++ rest = other.print.toList ++ rest') :
    value.kind = other.kind := by
  rcases proper.starts with ⟨first, more, text, kind⟩
  rcases proper'.starts with ⟨first', more', text', kind'⟩
  rw [text, text'] at same
  rw [(List.cons.inj same).1, kind'] at kind
  exact (Option.some.inj kind).symm

/-- No value begins with a closing bracket. -/
theorem IsProper.opens
    {value : Json} (proper : value.IsProper) {close : Char} (isClose : close ∈ [']', '\x7d'])
    (more more' : List Char) : value.print.toList ++ more ≠ close :: more' := by
  intro same
  rcases proper.starts with ⟨first, rest, text, kind⟩
  rw [text] at same
  rw [(List.cons.inj same).1] at kind
  have none : ∀ close ∈ [']', '\x7d'], Kind.ofLetter? close = none := by
    intro close member
    rcases List.mem_cons.1 member with rfl | member
    · rfl
    · rw [List.mem_singleton.1 member]
      rfl
  rw [none close isClose] at kind
  cases kind

/-- A number ends where no letter of a number follows. -/
theorem Number.tells {value other : Number} (proper : value.IsProper) (proper' : other.IsProper) :
    TellsItem (fun value => (numberText value).toList) value other := by
  intro rest rest' ends ends' same
  dsimp only at same
  have stops : ∀ rest, Ends rest → rest = [] ∨
      ∃ mark more, rest = mark :: more ∧ decide (Numeric mark) = false := by
    intro rest ends
    apply ends.imp_right
    rintro ⟨mark, more, rfl, isMark⟩
    have notNumeric : ∀ mark ∈ [',', ']', '\x7d'], ¬ Numeric mark := by simp [Numeric]
    exact ⟨mark, more, rfl, decide_eq_false (notNumeric mark isMark)⟩
  rcases cut_where (fun letter member =>
    decide_eq_true (text_numeric proper letter member)) (stops rest ends) with ⟨front, back⟩
  rcases cut_where (fun letter member =>
    decide_eq_true (text_numeric proper' letter member)) (stops rest' ends') with ⟨front', back'⟩
  rw [same] at front back
  exact ⟨text_injective proper proper' (front.symm.trans front'), back.symm.trans back'⟩

/-- A member begins with its name. -/
theorem memberLetters_opens
    {members : List (String × Json)} :
    ∀ member ∈ members, ∀ more more', memberLetters member ++ more ≠ '\x7d' :: more' := by
  intro member _ more more' same
  rw [memberLetters, toList_quoted] at same
  exact absurd (List.cons.inj same).1 (by decide)

/-- The text of a member tells it if the text of its value does. -/
theorem memberLetters_tells
    {member other : String × Json}
    (tells : TellsItem (fun value => value.print.toList) member.2 other.2) :
    TellsItem memberLetters member other := by
  intro rest rest' ends ends' same
  rw [memberLetters, memberLetters, List.append_assoc, List.append_assoc] at same
  rcases quoted_unique same with ⟨name, more⟩
  rcases tells rest rest' ends ends' (List.cons.inj more).2 with ⟨value, rests⟩
  exact ⟨Prod.ext name value, rests⟩

/-- The text of a value tells the value and where it ends. -/
theorem IsProper.tells
    {value : Json} (proper : value.IsProper) {other : Json} (proper' : other.IsProper) :
    TellsItem (fun value => value.print.toList) value other := by
  induction proper generalizing other with
  | null =>
      intro rest rest' ends ends' same
      have kinds := IsProper.null.kind_eq proper' same
      cases proper' with
      | null => exact ⟨rfl, List.append_cancel_left same⟩
      | _ => cases kinds
  | bool value =>
      intro rest rest' ends ends' same
      have kinds := (IsProper.bool value).kind_eq proper' same
      cases proper' with
      | bool other =>
          cases kinds
          exact ⟨rfl, List.append_cancel_left same⟩
      | _ => cases kinds
  | number proper =>
      intro rest rest' ends ends' same
      have kinds := (IsProper.number proper).kind_eq proper' same
      cases proper' with
      | number proper' =>
          rcases Number.tells proper proper' rest rest' ends ends' same with ⟨rfl, rests⟩
          exact ⟨rfl, rests⟩
      | _ => cases kinds
  | string value =>
      intro rest rest' ends ends' same
      have kinds := (IsProper.string value).kind_eq proper' same
      cases proper' with
      | string other =>
          rcases quoted_unique same with ⟨rfl, rests⟩
          exact ⟨rfl, rests⟩
      | _ => cases kinds
  | @array items proper ih =>
      intro rest rest' ends ends' same
      have kinds := (IsProper.array proper).kind_eq proper' same
      cases proper' with
      | @array others proper' =>
          dsimp only at same
          rw [toList_print_array, toList_print_array, List.cons_append, List.cons_append,
            List.append_assoc, List.append_assoc] at same
          have opens : ∀ item ∈ items ++ others, ∀ more more',
              item.print.toList ++ more ≠ ']' :: more' := by
            intro item member
            have itemProper : item.IsProper :=
              (List.mem_append.1 member).elim (proper item) (proper' item)
            exact itemProper.opens List.mem_cons_self
          rcases listed_unique List.mem_cons_self opens
            (fun item member other member' => ih item member (proper' other member'))
            (List.cons.inj same).2 with ⟨rfl, rests⟩
          exact ⟨rfl, rests⟩
      | _ => cases kinds
  | @object members proper ih =>
      intro rest rest' ends ends' same
      have kinds := (IsProper.object proper).kind_eq proper' same
      cases proper' with
      | @object others proper' =>
          dsimp only at same
          rw [toList_print_object, toList_print_object, List.cons_append, List.cons_append,
            List.append_assoc, List.append_assoc] at same
          rcases listed_unique (List.mem_cons_of_mem _ List.mem_cons_self) memberLetters_opens
            (fun member isMember other isOther =>
              memberLetters_tells (ih member isMember (proper' other isOther)))
            (List.cons.inj same).2 with ⟨rfl, rests⟩
          exact ⟨rfl, rests⟩
      | _ => cases kinds

/-- The text of a value tells the value. -/
theorem print_injective
    {value other : Json} (proper : value.IsProper) (proper' : other.IsProper)
    (same : value.print = other.print) : value = other :=
  (proper.tells proper' [] [] (.inl rfl) (.inl rfl) (congrArg (String.toList · ++ []) same)).1

end FrameEval.Json
