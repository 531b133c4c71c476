import FrameEval.Wire.Bytes

/-!
# Bytes that are to be a text

The first byte of a character tells between which bounds the bytes after it lie.  Bytes are looked
over from the front, and what is found first is their flaw: a byte that begins no character, a
byte out of bounds after some that could begin one, or an end within a character.  Bytes without a
flaw are the UTF-8 encoding of a text, and they are taken for it as they are.
-/

namespace FrameEval.Wire

/-- Why bytes are not the encoding of a text. -/
structure TextFlaw where
  /-- How many bytes make up whole characters. -/
  index : Nat
  /-- How many bytes there begin no character; none are known if the end cuts one short. -/
  length : Option Nat
  deriving DecidableEq

/-- The text of a flaw. -/
def TextFlaw.message : TextFlaw → String
  | ⟨index, some length⟩ => s!"invalid utf-8 sequence of {length} bytes from index {index}"
  | ⟨index, none⟩ => s!"incomplete utf-8 byte sequence from index {index}"

namespace Utf8

/-- The least and the greatest number that a byte may be. -/
abbrev Bounds := Nat × Nat

/-- The bounds of a byte that goes on with a character, if nothing closer is known. -/
def onward : Bounds := (0x80, 0xbf)

/-- The bounds of the second byte of a character: no number is written longer than it has to be,
and none is a surrogate or too great. -/
def secondBounds (first : Nat) : Bounds :=
  (if first = 0xe0 then 0xa0 else if first = 0xf0 then 0x90 else onward.1,
    if first = 0xed then 0x9f else if first = 0xf4 then 0x8f else onward.2)

/-- The bounds of the bytes after a first one, if characters begin with it. -/
def followers? (first : Nat) : Option (List Bounds) :=
  if first < 0x80 then some []
  else if first < 0xc2 then none
  else if first < 0xe0 then some [secondBounds first]
  else if first < 0xf0 then some [secondBounds first, onward]
  else if first < 0xf5 then some [secondBounds first, onward, onward]
  else none

/--
The first flaw, looking on from within a character: the characters before it are so many bytes
long, so many of its own bytes were seen, and those that it lacks have these bounds.
-/
def scan (index seen : Nat) : List Bounds → Bytes → Option TextFlaw
  | [], [] => none
  | _ :: _, [] => some ⟨index, none⟩
  | [], first :: rest =>
      match followers? first.toNat with
      | some lacking => scan (index + seen) 1 lacking rest
      | none => some ⟨index + seen, some 1⟩
  | bounds :: lacking, byte :: rest =>
      if bounds.1 ≤ byte.toNat ∧ byte.toNat ≤ bounds.2 then scan index (seen + 1) lacking rest
      else some ⟨index, some seen⟩

/-- The first flaw of bytes that are to be a text. -/
def flaw? (bytes : Bytes) : Option TextFlaw :=
  scan 0 0 [] bytes

/-! ## Characters

The bounds say just which bytes encode a character. -/

/-- The bytes after a first one lie within these bounds. -/
def Within : List Bounds → Bytes → Prop
  | [], [] => True
  | bounds :: lacking, byte :: rest =>
      (bounds.1 ≤ byte.toNat ∧ byte.toNat ≤ bounds.2) ∧ Within lacking rest
  | _, _ => False

section

variable {first second third fourth : UInt8}

theorem ofNat_eq_of_mod {number : Nat} {byte : UInt8} (same : number % 256 = byte.toNat) :
    UInt8.ofNat number = byte := by
  rw [← UInt8.toNat_inj, UInt8.toNat_ofNat']
  exact same

theorem exists_char {value : Nat} (valid : value.isValidChar) : ∃ c : Char, c.val.toNat = value :=
  ⟨Char.ofNatAux value valid, rfl⟩

theorem exists_encode_one (ascii : first.toNat < 0x80) :
    ∃ c, String.utf8EncodeChar c = [first] := by
  obtain ⟨c, value⟩ := exists_char (.inl (Nat.lt_trans ascii (by decide)) : first.toNat.isValidChar)
  refine ⟨c, ?_⟩
  rw [String.utf8EncodeChar, value, if_pos (Nat.le_of_lt_succ ascii), UInt8.ofNat_toNat]

theorem exists_encode_two
    (low : 0xc2 ≤ first.toNat) (high : first.toNat < 0xe0)
    (within : 0x80 ≤ second.toNat ∧ second.toNat ≤ 0xbf) :
    ∃ c, String.utf8EncodeChar c = [first, second] := by
  obtain ⟨c, value⟩ := exists_char
    (.inl (by omega) : ((first.toNat - 0xc0) * 64 + (second.toNat - 0x80)).isValidChar)
  refine ⟨c, ?_⟩
  rw [String.utf8EncodeChar, value, if_neg (by omega), if_pos (by omega)]
  simp only [List.cons.injEq, and_true]
  exact ⟨ofNat_eq_of_mod (by omega), ofNat_eq_of_mod (by omega)⟩

theorem exists_encode_three
    (low : 0xe0 ≤ first.toNat) (high : first.toNat < 0xf0)
    (within : 0x80 ≤ second.toNat ∧ second.toNat ≤ 0xbf)
    (within' : 0x80 ≤ third.toNat ∧ third.toNat ≤ 0xbf)
    (long : first.toNat = 0xe0 → 0xa0 ≤ second.toNat)
    (noSurrogate : first.toNat = 0xed → second.toNat ≤ 0x9f) :
    ∃ c, String.utf8EncodeChar c = [first, second, third] := by
  obtain ⟨c, value⟩ := exists_char
    (show ((first.toNat - 0xe0) * 4096 + (second.toNat - 0x80) * 64 +
      (third.toNat - 0x80)).isValidChar by unfold Nat.isValidChar; omega)
  refine ⟨c, ?_⟩
  rw [String.utf8EncodeChar, value, if_neg (by omega), if_neg (by omega), if_pos (by omega)]
  simp only [List.cons.injEq, and_true]
  exact ⟨ofNat_eq_of_mod (by omega), ofNat_eq_of_mod (by omega), ofNat_eq_of_mod (by omega)⟩

theorem exists_encode_four
    (low : 0xf0 ≤ first.toNat) (high : first.toNat ≤ 0xf4)
    (within : 0x80 ≤ second.toNat ∧ second.toNat ≤ 0xbf)
    (within' : 0x80 ≤ third.toNat ∧ third.toNat ≤ 0xbf)
    (within'' : 0x80 ≤ fourth.toNat ∧ fourth.toNat ≤ 0xbf)
    (long : first.toNat = 0xf0 → 0x90 ≤ second.toNat)
    (noBeyond : first.toNat = 0xf4 → second.toNat ≤ 0x8f) :
    ∃ c, String.utf8EncodeChar c = [first, second, third, fourth] := by
  obtain ⟨c, value⟩ := exists_char
    (show ((first.toNat - 0xf0) * 262144 + (second.toNat - 0x80) * 4096 +
      (third.toNat - 0x80) * 64 + (fourth.toNat - 0x80)).isValidChar by
        unfold Nat.isValidChar; omega)
  refine ⟨c, ?_⟩
  rw [String.utf8EncodeChar, value, if_neg (by omega), if_neg (by omega), if_neg (by omega)]
  simp only [List.cons.injEq, and_true]
  exact ⟨ofNat_eq_of_mod (by omega), ofNat_eq_of_mod (by omega), ofNat_eq_of_mod (by omega),
    ofNat_eq_of_mod (by omega)⟩

end

theorem within_secondBounds_iff {first number : Nat} :
    (secondBounds first).1 ≤ number ∧ number ≤ (secondBounds first).2 ↔
      (0x80 ≤ number ∧ number ≤ 0xbf) ∧
        ((first = 0xe0 → 0xa0 ≤ number) ∧ (first = 0xed → number ≤ 0x9f)) ∧
        (first = 0xf0 → 0x90 ≤ number) ∧ (first = 0xf4 → number ≤ 0x8f) := by
  grind [secondBounds, onward]

/-- Bytes within the bounds that a first one sets encode a character with it. -/
theorem exists_encode
    {first : UInt8} {lacking : List Bounds} {rest : Bytes}
    (begins : followers? first.toNat = some lacking) (within : Within lacking rest) :
    ∃ c, String.utf8EncodeChar c = first :: rest := by
  unfold followers? at begins
  split at begins
  · next ascii =>
      cases begins
      cases rest with
      | nil => exact exists_encode_one ascii
      | cons => cases within
  split at begins
  · cases begins
  next low =>
  split at begins
  · next high =>
      cases begins
      match rest, within with
      | [_], ⟨inside, _⟩ =>
        exact exists_encode_two (Nat.le_of_not_lt low) high (within_secondBounds_iff.1 inside).1
  next low =>
  split at begins
  · next high =>
      cases begins
      match rest, within with
      | [_, _], ⟨inside, inside', _⟩ =>
        obtain ⟨wide, three, -⟩ := within_secondBounds_iff.1 inside
        exact exists_encode_three (Nat.le_of_not_lt low) high wide inside' three.1 three.2
  next low =>
  split at begins
  · next high =>
      cases begins
      match rest, within with
      | [_, _, _], ⟨inside, inside', inside'', _⟩ =>
        obtain ⟨wide, -, four⟩ := within_secondBounds_iff.1 inside
        exact exists_encode_four (Nat.le_of_not_lt low) (Nat.le_of_lt_succ high) wide inside'
          inside'' four.1 four.2
  · cases begins

theorem followers?_two {first : Nat} (low : 0xc2 ≤ first) (high : first < 0xe0) :
    followers? first = some [secondBounds first] := by
  rw [followers?, if_neg (by omega), if_neg (by omega), if_pos high]

theorem followers?_three {first : Nat} (low : 0xe0 ≤ first) (high : first < 0xf0) :
    followers? first = some [secondBounds first, onward] := by
  rw [followers?, if_neg (by omega), if_neg (by omega), if_neg (by omega), if_pos high]

theorem followers?_four {first : Nat} (low : 0xf0 ≤ first) (high : first < 0xf5) :
    followers? first = some [secondBounds first, onward, onward] := by
  rw [followers?, if_neg (by omega), if_neg (by omega), if_neg (by omega), if_neg (by omega),
    if_pos high]

/-- The bytes that encode a character lie within the bounds that the first of them sets. -/
theorem encode_within (c : Char) :
    ∃ first rest lacking, String.utf8EncodeChar c = first :: rest ∧
      followers? first.toNat = some lacking ∧ Within lacking rest := by
  have valid : c.val.toNat < 0xd800 ∨ 0xdfff < c.val.toNat ∧ c.val.toNat < 0x110000 := c.valid
  rw [String.utf8EncodeChar]
  generalize c.val.toNat = value at valid
  have byte {number : Nat} (small : number < 256) : (UInt8.ofNat number).toNat = number :=
    UInt8.toNat_ofNat_of_lt' small
  have digit (number : Nat) : onward.1 ≤ (UInt8.ofNat (number % 64 + 128)).toNat ∧
      (UInt8.ofNat (number % 64 + 128)).toNat ≤ onward.2 := by
    rw [byte (by omega)]
    have small : number % 64 < 64 := Nat.mod_lt _ (by decide)
    exact ⟨Nat.le_add_left _ _, Nat.add_le_add_right (Nat.le_of_lt_succ small) _⟩
  by_cases one : value ≤ 0x7f
  · refine ⟨_, [], [], if_pos one, ?_, trivial⟩
    rw [byte (by omega), followers?, if_pos (Nat.lt_succ_of_le one)]
  rw [if_neg one]
  by_cases two : value ≤ 0x7ff
  · have first := byte (show value / 64 % 32 + 192 < 256 by omega)
    refine ⟨_, [_], _, if_pos two, followers?_two (by omega) (by omega),
      within_secondBounds_iff.2 ?_, trivial⟩
    rw [byte (by omega)]
    omega
  rw [if_neg two]
  by_cases three : value ≤ 0xffff
  · have first := byte (show value / 4096 % 16 + 224 < 256 by omega)
    refine ⟨_, [_, _], _, if_pos three, followers?_three (by omega) (by omega),
      within_secondBounds_iff.2 ?_, digit _, trivial⟩
    rw [byte (show value / 64 % 64 + 128 < 256 by omega)]
    omega
  · have first := byte (show value / 262144 % 8 + 240 < 256 by omega)
    refine ⟨_, [_, _, _], _, if_neg three, followers?_four (by omega) (by omega),
      within_secondBounds_iff.2 ?_, digit _, digit _, trivial⟩
    rw [byte (show value / 4096 % 64 + 128 < 256 by omega)]
    omega

/-! ## Texts -/

/-- Bytes within the bounds of what is lacking bring a character to its end. -/
theorem scan_within
    {lacking : List Bounds} {bytes : Bytes} (within : Within lacking bytes)
    (index seen : Nat) (rest : Bytes) :
    scan index seen lacking (bytes ++ rest) = scan index (seen + bytes.length) [] rest := by
  induction lacking generalizing seen bytes with
  | nil =>
      cases bytes with
      | nil => rfl
      | cons => cases within
  | cons bounds lacking ih =>
      cases bytes with
      | nil => cases within
      | cons byte bytes =>
          show (if _ then scan index (seen + 1) lacking (bytes ++ rest) else _) = _
          rw [if_pos within.1, ih within.2, List.length_cons, Nat.add_right_comm, Nat.add_assoc]

theorem scan_encode (c : Char) (index seen : Nat) (rest : Bytes) :
    scan index seen [] (String.utf8EncodeChar c ++ rest) =
      scan (index + seen) (String.utf8EncodeChar c).length [] rest := by
  obtain ⟨first, later, lacking, encoded, begins, within⟩ := encode_within c
  rw [encoded, List.cons_append, scan, begins]
  dsimp only
  rw [scan_within within, List.length_cons, Nat.add_comm 1]

/-- The encodings of characters, one after another, are without a flaw. -/
theorem scan_encodeAll (text : List Char) (index seen : Nat) :
    scan index seen [] (text.flatMap String.utf8EncodeChar) = none := by
  induction text generalizing index seen with
  | nil => rfl
  | cons c text ih => rw [List.flatMap_cons, scan_encode, ih]

/-- Without a flaw, bytes bring a character to its end and go on with whole characters. -/
theorem encoded_of_scan
    {index seen : Nat} {lacking : List Bounds} {bytes : Bytes}
    (sound : scan index seen lacking bytes = none) :
    ∃ (later : Bytes) (text : List Char),
      bytes = later ++ text.flatMap String.utf8EncodeChar ∧ Within lacking later := by
  induction bytes generalizing index seen lacking with
  | nil =>
      cases lacking with
      | nil => exact ⟨[], [], rfl, trivial⟩
      | cons => cases sound
  | cons byte bytes ih =>
      cases lacking with
      | nil =>
          cases begins : followers? byte.toNat with
          | none =>
              rw [scan, begins] at sound
              cases sound
          | some lacking =>
              rw [scan, begins] at sound
              obtain ⟨later, text, rfl, within⟩ := ih sound
              obtain ⟨c, encoded⟩ := exists_encode begins within
              refine ⟨[], c :: text, ?_, trivial⟩
              rw [List.flatMap_cons, encoded]
              rfl
      | cons bounds lacking =>
          rw [scan] at sound
          split at sound
          · next inside =>
              obtain ⟨later, text, rfl, within⟩ := ih sound
              exact ⟨byte :: later, text, rfl, inside, within⟩
          · cases sound

/-- A flaw lies in the character that was begun, or after it and some whole characters more. -/
theorem encoded_before_flaw
    {index seen : Nat} {lacking : List Bounds} {bytes : Bytes} {flaw : TextFlaw}
    (flawed : scan index seen lacking bytes = some flaw) :
    flaw.index = index ∨ ∃ (later : Bytes) (text : List Char) (rest : Bytes),
      bytes = later ++ (text.flatMap String.utf8EncodeChar ++ rest) ∧ Within lacking later ∧
        flaw.index = index + seen + later.length +
          (text.flatMap String.utf8EncodeChar).length := by
  induction bytes generalizing index seen lacking with
  | nil =>
      cases lacking with
      | nil => cases flawed
      | cons =>
          cases flawed
          exact .inl rfl
  | cons byte bytes ih =>
      cases lacking with
      | nil =>
          right
          cases begins : followers? byte.toNat with
          | none =>
              rw [scan, begins] at flawed
              cases flawed
              exact ⟨[], [], byte :: bytes, rfl, trivial, rfl⟩
          | some lacking =>
              rw [scan, begins] at flawed
              rcases ih flawed with here | ⟨later, text, rest, rfl, within, beyond⟩
              · exact ⟨[], [], byte :: bytes, rfl, trivial, here⟩
              · obtain ⟨c, encoded⟩ := exists_encode begins within
                refine ⟨[], c :: text, rest, ?_, trivial, ?_⟩
                · rw [List.flatMap_cons, encoded, List.append_assoc]
                  rfl
                · rw [beyond, List.flatMap_cons, encoded, List.length_append, List.length_cons,
                    List.length_nil]
                  omega
      | cons bounds lacking =>
          rw [scan] at flawed
          split at flawed
          · next inside =>
              rcases ih flawed with here | ⟨later, text, rest, rfl, within, beyond⟩
              · exact .inl here
              · refine .inr ⟨byte :: later, text, rest, rfl, ⟨inside, within⟩, ?_⟩
                rw [beyond, List.length_cons]
                omega
          · cases flawed
            exact .inl rfl

/-- Bytes encode a text if and only if they have no flaw. -/
theorem flaw?_eq_none_iff {bytes : Bytes} : flaw? bytes = none ↔ bytes.toByteArray.IsValidUTF8 := by
  constructor
  · intro sound
    obtain ⟨later, text, rfl, within⟩ := encoded_of_scan sound
    cases later with
    | nil => exact ⟨text, rfl⟩
    | cons => cases within
  · rintro ⟨text, same⟩
    rw [flaw?, List.toByteArray_inj.1 same, scan_encodeAll]

end Utf8

/-- The UTF-8 encoding of a text. -/
def encodeText (text : String) : Bytes :=
  text.toUTF8.data.toList

/-- The text that bytes encode in UTF-8, or why there is none. -/
def decodeText (bytes : Bytes) : Except TextFlaw String :=
  match flawless : Utf8.flaw? bytes with
  | none => .ok (.fromUTF8 bytes.toByteArray (Utf8.flaw?_eq_none_iff.1 flawless))
  | some flaw => .error flaw

theorem encodeText_toByteArray (text : String) : (encodeText text).toByteArray = text.toUTF8 := by
  apply ByteArray.ext
  rw [List.data_toByteArray, encodeText, Array.toArray_toList]

@[simp]
theorem decodeText_encodeText (text : String) : decodeText (encodeText text) = .ok text := by
  have flawless : Utf8.flaw? (encodeText text) = none := by
    rw [Utf8.flaw?_eq_none_iff, encodeText_toByteArray]
    exact text.isValidUTF8
  unfold decodeText
  split
  · exact congrArg Except.ok (String.toByteArray_inj.1 (encodeText_toByteArray text))
  · next flawed =>
      rw [flawless] at flawed
      cases flawed

/-- Bytes that are decoded are the encoding of their text. -/
theorem encodeText_of_decodeText
    {bytes : Bytes} {text : String} (decoded : decodeText bytes = .ok text) :
    encodeText text = bytes := by
  unfold decodeText at decoded
  split at decoded
  · cases decoded
    exact List.toList_data_toByteArray
  · cases decoded

/-- The bytes before the index of a flaw encode a text. -/
theorem decodeText_take_index
    {bytes : Bytes} {flaw : TextFlaw} (flawed : decodeText bytes = .error flaw) :
    ∃ text, decodeText (bytes.take flaw.index) = .ok text := by
  have found : Utf8.flaw? bytes = some flaw := by
    unfold decodeText at flawed
    split at flawed
    · cases flawed
    · next found =>
        cases flawed
        exact found
  obtain ⟨text, whole⟩ : ∃ text : List Char,
      bytes.take flaw.index = text.flatMap String.utf8EncodeChar := by
    rcases Utf8.encoded_before_flaw found with start | ⟨later, text, rest, rfl, within, beyond⟩
    · exact ⟨[], by rw [start]; rfl⟩
    · cases later with
      | cons => cases within
      | nil =>
          refine ⟨text, ?_⟩
          rw [List.length_nil, Nat.zero_add] at beyond
          rw [beyond, List.nil_append, List.take_left]
  have encoded : encodeText (.ofList text) = bytes.take flaw.index := by
    rw [whole]
    exact List.toList_data_toByteArray
  exact ⟨.ofList text, by rw [← encoded, decodeText_encodeText]⟩

/-- The text that bytes encode, if they do. -/
def decodeText? (bytes : Bytes) : Option String :=
  (decodeText bytes).toOption

@[simp]
theorem decodeText?_encodeText (text : String) : decodeText? (encodeText text) = some text := by
  rw [decodeText?, decodeText_encodeText]
  rfl

end FrameEval.Wire
