import FrameEval.Proofs.MethodDescriptors
import FrameEval.Wire.Utf8
import Mathlib.Data.List.TakeWhile

/-!
# Splitting any text

The signature of a method comes from the target, so it may be any text.  As long as no character
outside ASCII stands where a parameter goes on, it is split all the same, and nothing but brackets
that belong to no parameter is lost.

Marks within a text are offsets between its bytes.  `cut?` walks over these bytes: it advances by a
bracket, by a byte or to the end of a class name, and refuses to cut where a character goes on.  It
gives the bytes of the pieces, so every mark that it sets stands between two characters.
-/

namespace FrameEval.Signature

open Wire

/-! ## What is split -/

/-- The text that a signature has for its parameters. -/
inductive Encloses : List Char → List Char → Prop where
  | closed {text rest : List Char} (inner : ')' ∉ text) :
      Encloses ('(' :: (text ++ ')' :: rest)) text
  /-- Nothing closes the parenthesis. -/
  | unclosed {text : List Char} (inner : ')' ∉ text) : Encloses ('(' :: text) text
  | unopened {letters : List Char} (other : letters.head? ≠ some '(') : Encloses letters []

theorem encloses_parameterText (letters : List Char) :
    Encloses letters (parameterText letters) := by
  cases letters with
  | nil => exact .unopened nofun
  | cons first rest =>
      by_cases opened : first = '('
      · subst opened
        have inner : ')' ∉ rest.takeWhile (· ≠ ')') := by
          intro member
          simpa using List.mem_takeWhile_imp member
        have whole : rest.takeWhile (· ≠ ')') ++ rest.dropWhile (· ≠ ')') = rest :=
          List.takeWhile_append_dropWhile
        rw [parameterText]
        cases after : rest.dropWhile (· ≠ ')') with
        | nil =>
            rw [after, List.append_nil] at whole
            rw [whole] at inner ⊢
            exact .unclosed inner
        | cons stop more =>
            have closing := List.head?_dropWhile_not (· ≠ ')') rest
            rw [after] at closing
            obtain rfl : stop = ')' := by simpa using closing
            have closed : Encloses ('(' :: (rest.takeWhile (· ≠ ')') ++ ')' :: more))
                (rest.takeWhile (· ≠ ')')) := .closed inner
            rwa [← after, whole] at closed
      · have none : parameterText (first :: rest) = [] := by
          rw [parameterText]
          exact fun _ same => opened (List.cons.inj same).1
        rw [none]
        exact .unopened fun same => opened (Option.some.inj same)

/-- Whether letters leave off within a class name, when they begin within one or not. -/
def endsInName (inside : Bool) (letters : List Char) : Bool :=
  letters.foldl (fun inside letter => if inside then letter ≠ ';' else letter = 'L') inside

/-- Outside of class names all letters are ASCII. -/
def PlainFrom (inside : Bool) (text : List Char) : Prop :=
  ∀ before letter after, text = before ++ letter :: after →
    endsInName inside before = false → letter.toNat < 128

theorem plainFrom_cons_iff
    {inside : Bool} {letter : Char} {rest : List Char} :
    PlainFrom inside (letter :: rest) ↔
      (inside = false → letter.toNat < 128) ∧ PlainFrom (endsInName inside [letter]) rest := by
  constructor
  · intro plain
    refine ⟨fun outside => plain [] letter rest rfl outside, ?_⟩
    intro before other after same outside
    exact plain (letter :: before) other after (congrArg _ same) outside
  · rintro ⟨first, later⟩ before other after same outside
    cases before with
    | nil =>
        cases same
        exact first outside
    | cons begun before =>
        cases same
        exact later before other after rfl outside

instance decidablePlainFrom : (inside : Bool) → (text : List Char) →
    Decidable (PlainFrom inside text)
  | _, [] => isTrue fun before _ _ same => by simp at same
  | inside, letter :: rest =>
      have := decidablePlainFrom (endsInName inside [letter]) rest
      decidable_of_iff _ plainFrom_cons_iff.symm

/-! ## Letters -/

namespace SplitState

/-- Whether a class name is being read. -/
def inside : SplitState → Bool
  | dimensions _ => false
  | className _ => true

/-- The letters of the parameter that is being read, in order. -/
def begun : SplitState → List Char
  | dimensions before => before.reverse
  | className before => before.reverse

/-- Before a class name there are brackets only, and a class name has a first letter. -/
def Sound : SplitState → Prop
  | dimensions before => ∀ letter ∈ before, letter = '['
  | className before => before ≠ []

theorem sound_start : (dimensions []).Sound :=
  fun _ member => (List.not_mem_nil member).elim

theorem Sound.bracket
    {before : List Char} (sound : (dimensions before).Sound) :
    (dimensions ('[' :: before)).Sound :=
  List.forall_mem_cons.2 ⟨rfl, sound⟩

theorem Sound.begun_eq
    {before : List Char} (sound : (dimensions before).Sound) :
    before.reverse = List.replicate before.length '[' :=
  List.eq_replicate_iff.2
    ⟨List.length_reverse, fun letter member => sound letter (List.mem_reverse.1 member)⟩

end SplitState

theorem exists_split?
    (state : SplitState) {letters : List Char} (plain : PlainFrom state.inside letters) :
    ∃ pieces, split? state letters = some pieces := by
  fun_induction split? state letters with
  | case1 => exact ⟨_, rfl⟩
  | case2 => exact ⟨_, rfl⟩
  | case3 before rest ih => exact ih (plainFrom_cons_iff.1 plain).2
  | case4 before rest _ ih => exact ih (plainFrom_cons_iff.1 plain).2
  | case5 before letter rest bracket name ascii ih =>
      have outside : endsInName false [letter] = false := decide_eq_false name
      have later := (plainFrom_cons_iff.1 plain).2
      rw [SplitState.inside, outside] at later
      obtain ⟨pieces, split⟩ := ih later
      exact ⟨_, congrArg _ split⟩
  | case6 before letter rest _ _ foreign =>
      exact (foreign ((plainFrom_cons_iff.1 plain).1 rfl)).elim
  | case7 before rest ih =>
      obtain ⟨pieces, split⟩ := ih (plainFrom_cons_iff.1 plain).2
      exact ⟨_, congrArg _ split⟩
  | case8 before letter rest inner ih =>
      have within : endsInName true [letter] = true := decide_eq_true inner
      have later := (plainFrom_cons_iff.1 plain).2
      rw [SplitState.inside, within] at later
      exact ih later

/-- Pieces that have letters, and brackets after them, make up a text. -/
structure MadeOf (text : List Char) (pieces : List (List Char)) : Prop where
  lossless : ∃ brackets, pieces.flatten ++ List.replicate brackets '[' = text
  nonempty : ∀ piece ∈ pieces, piece ≠ []

theorem MadeOf.cons
    {piece rest : List Char} {pieces : List (List Char)} (made : MadeOf rest pieces)
    (letters : piece ≠ []) :
    MadeOf (piece ++ rest) (piece :: pieces) where
  lossless := by
    obtain ⟨brackets, whole⟩ := made.lossless
    exact ⟨brackets, by rw [List.flatten_cons, List.append_assoc, whole]⟩
  nonempty := List.forall_mem_cons.2 ⟨letters, made.nonempty⟩

/-- A letter ends the piece that was begun before it. -/
theorem MadeOf.ended
    {rest : List Char} {later : List (List Char)} (made : MadeOf rest later) (before : List Char)
    (letter : Char) :
    MadeOf (before.reverse ++ letter :: rest) ((letter :: before).reverse :: later) := by
  have letters : (letter :: before).reverse ≠ [] := by simp
  simpa using made.cons letters

theorem madeOf_split?
    (state : SplitState) {letters : List Char} {pieces : List (List Char)} (sound : state.Sound)
    (split : split? state letters = some pieces) :
    MadeOf (state.begun ++ letters) pieces := by
  fun_induction split? state letters generalizing pieces with
  | case1 before =>
      cases split
      exact ⟨⟨before.length, by simp [SplitState.begun, sound.begun_eq]⟩, nofun⟩
  | case2 before =>
      cases split
      have letters : before.reverse ≠ [] := fun empty => sound (List.reverse_eq_nil_iff.1 empty)
      exact MadeOf.cons ⟨⟨0, rfl⟩, nofun⟩ letters
  | case3 before rest ih =>
      have made := ih sound.bracket split
      rwa [SplitState.begun, List.reverse_cons, List.append_assoc] at made
  | case4 before rest _ ih =>
      have made := ih (List.cons_ne_nil _ _) split
      rwa [SplitState.begun, List.reverse_cons, List.append_assoc] at made
  | case5 before letter rest _ _ _ ih =>
      obtain ⟨later, found, rfl⟩ := Option.map_eq_some_iff.1 split
      exact MadeOf.ended (ih SplitState.sound_start found) before letter
  | case6 => cases split
  | case7 before rest ih =>
      obtain ⟨later, found, rfl⟩ := Option.map_eq_some_iff.1 split
      exact MadeOf.ended (ih SplitState.sound_start found) before ';'
  | case8 before letter rest _ ih =>
      have made := ih (List.cons_ne_nil _ _) split
      rwa [SplitState.begun, List.reverse_cons, List.append_assoc] at made

theorem split?_unended
    {name : List Char} (unended : ';' ∉ name) (before : List Char) :
    split? (.className before) name = some [before.reverse ++ name] := by
  induction name generalizing before with
  | nil => rw [split?, List.append_nil]
  | cons letter name ih =>
      have inside : letter ≠ ';' := fun same => unended (same ▸ List.mem_cons_self)
      have later : ';' ∉ name := fun member => unended (List.mem_cons_of_mem letter member)
      rw [split?, if_neg inside, ih later]
      simp

/-- A class name that does not end is the last piece, with the brackets before it. -/
theorem last_of_unended
    {name : List Char} (unended : ';' ∉ name) {before : List Char} (state : SplitState)
    {pieces : List (List Char)} (sound : state.Sound)
    (outside : endsInName state.inside before = false)
    (split : split? state (before ++ 'L' :: name) = some pieces) :
    ∃ earlier brackets, pieces = earlier ++ [List.replicate brackets '[' ++ 'L' :: name] := by
  induction before generalizing state pieces with
  | nil =>
      cases state with
      | className => cases outside
      | dimensions before =>
          have last : split? (.dimensions before) ('L' :: name) = _ :=
            split?_unended unended ('L' :: before)
          rw [List.nil_append, last] at split
          cases split
          exact ⟨[], before.length, by simp [← sound.begun_eq]⟩
  | cons letter before ih =>
      rw [List.cons_append] at split
      cases state with
      | dimensions before' =>
          rw [split?] at split
          split at split
          · next bracket =>
              subst bracket
              exact ih _ sound.bracket outside split
          · split at split
            · next name =>
                subst name
                exact ih (.className ('L' :: before')) (List.cons_ne_nil _ _) outside split
            · next other =>
                split at split
                · obtain ⟨later, found, rfl⟩ := Option.map_eq_some_iff.1 split
                  have outside : endsInName false before = false := by
                    simpa [endsInName, SplitState.inside, other] using outside
                  obtain ⟨earlier, brackets, rfl⟩ := ih _ SplitState.sound_start outside found
                  exact ⟨_ :: earlier, brackets, rfl⟩
                · cases split
      | className before' =>
          rw [split?] at split
          split at split
          · next ended =>
              subst ended
              obtain ⟨later, found, rfl⟩ := Option.map_eq_some_iff.1 split
              obtain ⟨earlier, brackets, rfl⟩ := ih _ SplitState.sound_start outside found
              exact ⟨_ :: earlier, brackets, rfl⟩
          · next inner =>
              have outside : endsInName true before = false := by
                simpa [endsInName, SplitState.inside, inner] using outside
              exact ih (.className (letter :: before')) (List.cons_ne_nil _ _) outside split

/-! ## Bytes -/

/-- Whether a byte goes on with a character that began before it. -/
def continues (byte : UInt8) : Bool :=
  128 ≤ byte.toNat && byte.toNat < 192

/-- Whether bytes begin where a character does, or where the text ends. -/
def onBoundary : Bytes → Bool
  | [] => true
  | byte :: _ => !continues byte

/-- How many bytes the rest of a class name has: up to its `;`, or all there are. -/
def nameLength (rest : Bytes) : Nat :=
  match rest.findIdx? (· = 59) with
  | some index => index + 1
  | none => rest.length

/-- Cut the bytes of a text into parameters, some bytes having been passed since the last mark.  No
mark is set where a character goes on. -/
def cut? (passed : Bytes) : Bytes → Option (List Bytes)
  | [] => some []
  | byte :: rest =>
      if byte = 91 then cut? (passed ++ [byte]) rest
      else
        let taken := if byte = 76 then nameLength rest else 0
        if onBoundary (rest.drop taken) then
          (cut? [] (rest.drop taken)).map ((passed ++ byte :: rest.take taken) :: ·)
        else none
termination_by bytes => bytes.length
decreasing_by
  · exact Nat.lt_succ_self _
  · rw [List.length_drop, List.length_cons]
    omega

/-- The bytes of letters. -/
def encode (letters : List Char) : Bytes :=
  letters.flatMap String.utf8EncodeChar

theorem encodeText_ofList (letters : List Char) :
    encodeText (String.ofList letters) = encode letters := by
  rw [encodeText, String.toUTF8_eq_toByteArray, String.toByteArray_ofList]
  simp [List.utf8Encode, encode]

theorem encode_cons (letter : Char) (rest : List Char) :
    encode (letter :: rest) = String.utf8EncodeChar letter ++ encode rest :=
  List.flatMap_cons

theorem encode_append (letters rest : List Char) :
    encode (letters ++ rest) = encode letters ++ encode rest :=
  List.flatMap_append

/-- An ASCII letter is one byte, any other several: one that begins it and others that go on. -/
theorem utf8EncodeChar_cases (letter : Char) :
    (letter.toNat < 128 ∧ String.utf8EncodeChar letter = [UInt8.ofNat letter.toNat]) ∨
      (128 ≤ letter.toNat ∧ ∃ first second more,
        String.utf8EncodeChar letter = first :: second :: more ∧
          192 ≤ first.toNat ∧ continues second = true ∧
          ∀ byte ∈ second :: more, 128 ≤ byte.toNat) := by
  have point : letter.val.toNat = letter.toNat := rfl
  have later (high : Nat) : continues (UInt8.ofNat (high % 64 + 128)) = true := by
    simp [continues]
    omega
  have large (high : Nat) : 128 ≤ (UInt8.ofNat (high % 64 + 128)).toNat := by
    simp
    omega
  unfold String.utf8EncodeChar
  simp only [point]
  split
  · next ascii => exact .inl ⟨by omega, rfl⟩
  split
  · next two =>
      refine .inr ⟨by omega, _, _, _, rfl, ?_, later _, ?_⟩
      · simp
        omega
      · simp only [List.forall_mem_cons]
        exact ⟨large _, nofun⟩
  split
  · next three =>
      refine .inr ⟨by omega, _, _, _, rfl, ?_, later _, ?_⟩
      · simp
        omega
      · simp only [List.forall_mem_cons]
        exact ⟨large _, large _, nofun⟩
  · refine .inr ⟨by omega, _, _, _, rfl, ?_, later _, ?_⟩
    · simp
      omega
    · simp only [List.forall_mem_cons]
      exact ⟨large _, large _, large _, nofun⟩

theorem onBoundary_encode (letters : List Char) : onBoundary (encode letters) = true := by
  cases letters with
  | nil => rfl
  | cons letter rest =>
      rw [encode_cons]
      rcases utf8EncodeChar_cases letter with ⟨ascii, single⟩ |
        ⟨-, first, second, more, several, begins, -, -⟩
      · rw [single]
        simp [onBoundary, continues]
        omega
      · rw [several]
        simp [onBoundary, continues]
        omega

/-- Only the letter `;` has its byte. -/
theorem semicolon_mem_of_encode
    {letters : List Char} (member : 59 ∈ encode letters) : ';' ∈ letters := by
  obtain ⟨letter, known, inside⟩ := List.mem_flatMap.1 member
  rcases utf8EncodeChar_cases letter with ⟨ascii, single⟩ |
    ⟨-, first, second, more, several, begins, -, large⟩
  · rw [single, List.mem_singleton] at inside
    have number : 59 % 256 = letter.toNat % 256 := by simpa using congrArg UInt8.toNat inside
    have same : letter = ';' := Char.toNat_inj.1 (by simp; omega)
    exact same ▸ known
  · rw [several] at inside
    rcases List.mem_cons.1 inside with rfl | among
    · simp at begins
    · have := large 59 among
      simp at this

theorem findIdx?_encode
    {name : List Char} (unended : ';' ∉ name) :
    (encode name).findIdx? (· = 59) = none := by
  rw [List.findIdx?_eq_none_iff]
  intro byte member
  exact decide_eq_false fun same => unended (semicolon_mem_of_encode (same ▸ member))

theorem nameLength_unended
    {name : List Char} (unended : ';' ∉ name) :
    nameLength (encode name) = (encode name).length := by
  rw [nameLength, findIdx?_encode unended]

theorem nameLength_ended
    {name : List Char} (unended : ';' ∉ name) (rest : Bytes) :
    nameLength (encode name ++ 59 :: rest) = (encode name).length + 1 := by
  rw [nameLength, List.findIdx?_append, findIdx?_encode unended]
  simp [List.findIdx?_cons]

/-- A mark where a character begins is set. -/
theorem cut?_of_onBoundary
    {passed rest taken left : Bytes} {byte : UInt8} (other : byte ≠ 91)
    (parts : rest = taken ++ left)
    (number : taken.length = if byte = 76 then nameLength rest else 0)
    (mark : onBoundary left = true) :
    cut? passed (byte :: rest) = (cut? [] left).map ((passed ++ byte :: taken) :: ·) := by
  have dropped : rest.drop taken.length = left := by rw [parts, List.drop_left]
  have kept : rest.take taken.length = taken := by rw [parts, List.take_left]
  rw [cut?, if_neg other, ← number]
  dsimp only
  rw [dropped, kept, if_pos mark]

theorem encode_ascii
    {letter : Char} (ascii : letter.toNat < 128) :
    encode [letter] = [UInt8.ofNat letter.toNat] := by
  rcases utf8EncodeChar_cases letter with ⟨-, single⟩ | ⟨foreign, -⟩
  · rw [encode_cons, single]
    rfl
  · exact absurd ascii (Nat.not_lt.2 foreign)

/-- The byte of an ASCII letter is that of no other. -/
theorem byte_ne
    (letter other : Char) (ascii : letter.toNat < 128) (small : other.toNat < 128)
    (apart : letter ≠ other) :
    UInt8.ofNat letter.toNat ≠ UInt8.ofNat other.toNat := by
  intro same
  have number : letter.toNat % 256 = other.toNat % 256 := by simpa using congrArg UInt8.toNat same
  exact apart (Char.toNat_inj.1 (by omega))

/-- A piece of bytes is one of letters if the walk goes on as the letters are split. -/
theorem cut?_piece
    {before after piece : List Char} {taken : Bytes} {byte : UInt8} (other : byte ≠ 91)
    (number : taken.length = if byte = 76 then nameLength (taken ++ encode after) else 0)
    (same : encode before.reverse ++ byte :: taken = encode piece)
    (onward : cut? [] (encode after) = (split? (.dimensions []) after).map (List.map encode)) :
    cut? (encode before.reverse) (byte :: (taken ++ encode after)) =
      ((split? (.dimensions []) after).map (piece :: ·)).map (List.map encode) := by
  rw [cut?_of_onBoundary other rfl number (onBoundary_encode after), same, onward,
    Option.map_map, Option.map_map]
  rfl

/-- Where a character outside ASCII stands for a type, a mark is refused. -/
theorem cut?_foreign
    (passed : Bytes) {letter : Char} (foreign : ¬ letter.toNat < 128) (rest : List Char) :
    cut? passed (encode (letter :: rest)) = none := by
  rcases utf8EncodeChar_cases letter with ⟨ascii, -⟩ |
    ⟨-, first, second, more, several, begins, goesOn, -⟩
  · exact absurd ascii foreign
  · have noBracket : first ≠ 91 := by
      rintro rfl
      simp at begins
    have noName : first ≠ 76 := by
      rintro rfl
      simp at begins
    rw [encode_cons, several, List.cons_append, cut?, if_neg noBracket, if_neg noName]
    simp [onBoundary, goesOn]

/-- The walk over the bytes of a text cuts it where the letters are split, and refuses it where
these are refused. -/
theorem cut?_encode
    (before letters : List Char) :
    cut? (encode before.reverse) (encode letters) =
      (split? (.dimensions before) letters).map (List.map encode) := by
  match letters with
  | [] => simp [split?, encode, cut?]
  | letter :: rest =>
      have one : encode (letter :: rest) = encode [letter] ++ encode rest :=
        encode_append [letter] rest
      have begun (more : List Char) : encode before.reverse ++ (encode [letter] ++ encode more) =
          encode ((letter :: before).reverse ++ more) := by
        rw [List.reverse_cons, encode_append, encode_append, List.append_assoc]
      by_cases bracket : letter = '['
      · subst bracket
        have isBracket : encode ['['] = [91] := encode_ascii (by decide)
        rw [split?, if_pos rfl, ← cut?_encode ('[' :: before) rest, one, isBracket,
          List.singleton_append, cut?, if_pos rfl, List.reverse_cons, encode_append, isBracket]
      by_cases name : letter = 'L'
      · subst name
        have isName : encode ['L'] = [76] := encode_ascii (by decide)
        rw [isName] at one begun
        rw [split?, if_neg bracket, if_pos rfl, one, List.singleton_append]
        by_cases ended : ';' ∈ rest
        · obtain ⟨inner, after, rfl, unended⟩ := List.eq_append_cons_of_mem ended
          have isEnd : encode [';'] = [59] := encode_ascii (by decide)
          have parts :
              encode (inner ++ ';' :: after) = encode (inner ++ [';']) ++ encode after := by
            rw [← encode_append, List.append_assoc, List.singleton_append]
          have number : (encode (inner ++ [';'])).length =
              nameLength (encode (inner ++ [';']) ++ encode after) := by
            rw [encode_append, isEnd, List.append_assoc, List.singleton_append,
              nameLength_ended unended, List.length_append, List.length_singleton]
          rw [parts, split?_className unended]
          exact cut?_piece (by decide) (by rw [if_pos rfl, ← number]) (begun _)
            (cut?_encode [] after)
        · have parts : encode rest = encode rest ++ encode [] := by
            rw [← encode_append, List.append_nil]
          have number : (encode rest).length = nameLength (encode rest ++ encode []) := by
            rw [← parts, nameLength_unended ended]
          rw [split?_unended ended, parts]
          exact cut?_piece (by decide) (by rw [if_pos rfl, ← number]) (begun _) (cut?_encode [] [])
      rw [split?, if_neg bracket, if_neg name]
      by_cases ascii : letter.toNat < 128
      · have noName : UInt8.ofNat letter.toNat ≠ 76 := byte_ne letter 'L' ascii (by decide) name
        rw [encode_ascii ascii] at one begun
        rw [if_pos ascii, one]
        refine cut?_piece (byte_ne letter '[' ascii (by decide) bracket) ?_ ?_ (cut?_encode [] rest)
        · rw [if_neg noName, List.length_nil]
        · have same := begun []
          rwa [List.append_nil] at same
      · rw [if_neg ascii, cut?_foreign _ ascii]
        rfl
termination_by letters.length

/-! ## Signatures -/

/-- How a text is split into parameters. -/
structure SplitAs (text : List Char) (pieces : List String) : Prop where
  nonempty : ∀ piece ∈ pieces, piece ≠ ""
  /-- All that is left out are brackets at the end. -/
  lossless : ∃ brackets, String.join pieces ++ String.ofList (List.replicate brackets '[') =
    String.ofList text
  /-- The pieces are what a walk over the bytes cuts out, and no mark of it stands within a
  character. -/
  marks : cut? [] (encodeText (String.ofList text)) = some (pieces.map encodeText)
  /-- A class name that does not end runs to the end of the text. -/
  unended : ∀ before name, text = before ++ 'L' :: name → endsInName false before = false →
    ';' ∉ name → ∃ earlier brackets,
      pieces = earlier ++ [String.ofList (List.replicate brackets '[' ++ 'L' :: name)]

theorem splitAs_of_split?
    {text : List Char} {pieces : List (List Char)}
    (split : split? (.dimensions []) text = some pieces) :
    SplitAs text (pieces.map String.ofList) := by
  have made := madeOf_split? _ SplitState.sound_start split
  refine { nonempty := ?nonempty, lossless := ?lossless, marks := ?marks, unended := ?unended }
  case nonempty =>
    intro piece member empty
    obtain ⟨letters, among, rfl⟩ := List.mem_map.1 member
    exact made.nonempty letters among (by simpa using congrArg String.toList empty)
  case lossless =>
    obtain ⟨brackets, whole⟩ := made.lossless
    refine ⟨brackets, String.toList_inj.1 ?_⟩
    simpa [SplitState.begun, List.flatMap, Function.comp_def] using whole
  case marks =>
    have walk := cut?_encode [] text
    have bytes : encodeText ∘ String.ofList = encode := funext encodeText_ofList
    rw [split] at walk
    rw [encodeText_ofList, List.map_map, bytes]
    exact walk
  case unended =>
    rintro before name rfl outside unended
    obtain ⟨earlier, brackets, rfl⟩ :=
      last_of_unended unended _ SplitState.sound_start outside split
    exact ⟨earlier.map String.ofList, brackets, by simp⟩

/-- Whatever stands in a signature, its parameters are split without a mark inside of a character
and without a loss, if no parameter goes on with a character outside ASCII. -/
theorem any_signature_is_split
    {signature : String} (plain : PlainFrom false (parameterText signature.toList)) :
    Encloses signature.toList (parameterText signature.toList) ∧
      ∃ pieces, parameters? signature = some pieces ∧
        SplitAs (parameterText signature.toList) pieces := by
  refine ⟨encloses_parameterText _, ?_⟩
  obtain ⟨pieces, split⟩ := exists_split? (.dimensions []) plain
  exact ⟨pieces.map String.ofList, by rw [parameters?, split]; rfl, splitAs_of_split? split⟩

/-- A class name outside ASCII, and an array of classes whose name does not end. -/
theorem unended_name_is_split :
    PlainFrom false (parameterText "([ILé;[[Lx)日".toList) ∧
      parameters? "([ILé;[[Lx)日" = some ["[I", "Lé;", "[[Lx"] ∧
      SplitAs "[ILé;[[Lx".toList ["[I", "Lé;", "[[Lx"] := by
  have plain : PlainFrom false (parameterText "([ILé;[[Lx)日".toList) := by decide
  have pieces : parameters? "([ILé;[[Lx)日" = some ["[I", "Lé;", "[[Lx"] := by decide
  obtain ⟨-, others, split, known⟩ := any_signature_is_split plain
  cases split.symm.trans pieces
  exact ⟨plain, pieces, known⟩

end FrameEval.Signature
