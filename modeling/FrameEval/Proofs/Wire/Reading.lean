import FrameEval.Wire.Reader
import FrameEval.Wire.Writer
import Mathlib.Data.List.Induction

/-!
# What readers take

A reader that succeeds takes some bytes from the front of its buffer, and does the same with
these bytes in front of any others.  Two things follow for every such reader, whatever its
layout: it cannot succeed on a proper prefix of what it takes, and what is written for one reader
after another is read back in that order.

Where the bytes are a canonical form of the value, a reader and a writer make up a codec; the
words of all widths do.
-/

namespace FrameEval.Wire

/-! ## Digits -/

theorem ofBigEndian_lt (bytes : Bytes) : ofBigEndian bytes < Nat.pow 256 bytes.length := by
  induction bytes using List.reverseRecOn with
  | nil => exact Nat.one_pos
  | append_singleton bytes last ih =>
      have digit : last.toNat < 256 := last.toNat_lt
      have weight : Nat.pow 256 (bytes ++ [last]).length = Nat.pow 256 bytes.length * 256 := by
        rw [List.length_append]
        rfl
      rw [ofBigEndian_append, weight]
      omega

/-- Bytes are the digits of the number that they stand for. -/
theorem bigEndian_ofBigEndian (bytes : Bytes) :
    bigEndian bytes.length (ofBigEndian bytes) = bytes := by
  induction bytes using List.reverseRecOn with
  | nil => rfl
  | append_singleton bytes last ih =>
      have digit : last.toNat < 256 := last.toNat_lt
      have higher : (ofBigEndian bytes * 256 + last.toNat) / 256 = ofBigEndian bytes := by omega
      have lowest : (ofBigEndian bytes * 256 + last.toNat) % 256 = last.toNat := by omega
      rw [List.length_append, ofBigEndian_append]
      show bigEndian bytes.length _ ++ _ = _
      rw [higher, lowest, ih, UInt8.ofNat_toNat]

namespace Reader

variable {α β : Type}

/-! ## Readers and what they take -/

/-- A reader takes these bytes for a value, whatever follows them. -/
def Reads (reader : Reader α) (bytes : Bytes) (value : α) : Prop :=
  ∀ rest, reader (bytes ++ rest) = (.ok value, rest)

/-- A reader that succeeds depends on nothing but the bytes that it takes. -/
structure Local (reader : Reader α) : Prop where
  takes : ∀ {bytes value rest}, reader bytes = (.ok value, rest) →
    ∃ taken, bytes = taken ++ rest ∧ reader.Reads taken value

theorem bind_eq_ok_iff
    {first : Reader α} {second : α → Reader β} {bytes rest : Bytes} {result : β} :
    (first >>= second) bytes = (.ok result, rest) ↔
      ∃ value between, first bytes = (.ok value, between) ∧
        second value between = (.ok result, rest) := by
  show Reader.bind first second bytes = _ ↔ _
  unfold Reader.bind
  rcases first bytes with ⟨_ | value, between⟩
  · constructor
    · intro failed
      cases failed
    · rintro ⟨value, other, same, -⟩
      cases same
  · constructor
    · intro read
      exact ⟨value, between, rfl, read⟩
    · rintro ⟨_, _, ⟨⟩, read⟩
      exact read

theorem reads_pure (value : α) : (Pure.pure value : Reader α).Reads [] value :=
  fun _ => rfl

theorem Reads.bind
    {first : Reader α} {second : α → Reader β} {bytes more : Bytes} {value : α} {result : β}
    (reads : first.Reads bytes value) (later : (second value).Reads more result) :
    (first >>= second).Reads (bytes ++ more) result := by
  intro rest
  rw [List.append_assoc]
  exact bind_eq_ok_iff.2 ⟨value, more ++ rest, reads _, later rest⟩

theorem Reads.map
    {reader : Reader α} {bytes : Bytes} {value : α} (reads : reader.Reads bytes value)
    (pack : α → β) :
    (do return pack (← reader)).Reads bytes (pack value) := by
  intro rest
  exact bind_eq_ok_iff.2 ⟨value, rest, reads rest, rfl⟩

theorem local_pure (value : α) : (Pure.pure value : Reader α).Local where
  takes := by
    rintro bytes _ rest ⟨⟩
    exact ⟨[], rfl, reads_pure value⟩

theorem local_fail (detail : String) : (fail detail : Reader α).Local where
  takes := by
    rintro bytes value rest ⟨⟩

theorem Local.bind
    {first : Reader α} {second : α → Reader β} (near : first.Local)
    (near' : ∀ value, (second value).Local) :
    (first >>= second).Local where
  takes := by
    intro bytes result rest read
    obtain ⟨value, between, read, read'⟩ := bind_eq_ok_iff.1 read
    obtain ⟨taken, rfl, reads⟩ := near.takes read
    obtain ⟨more, rfl, reads'⟩ := (near' value).takes read'
    exact ⟨taken ++ more, (List.append_assoc _ _ _).symm, reads.bind reads'⟩

theorem Local.map
    {reader : Reader α} (near : reader.Local) (pack : α → β) :
    (do return pack (← reader)).Local :=
  near.bind fun value => local_pure (pack value)

theorem local_ite
    {condition : Prop} [Decidable condition] {first second : Reader α}
    (near : first.Local) (near' : second.Local) :
    (if condition then first else second).Local := by
  split
  · exact near
  · exact near'

/-- A buffer that breaks off within what a reader takes is refused. -/
theorem Local.fails_of_prefix
    {reader : Reader α} (near : reader.Local) {bytes missing : Bytes} {value : α}
    (reads : reader.Reads (bytes ++ missing) value) (short : missing ≠ []) :
    ∃ error, reader.run bytes = .error error := by
  cases outcome : reader bytes with
  | mk result rest =>
      cases result with
      | error error => exact ⟨error, congrArg Prod.fst outcome⟩
      | ok other =>
          obtain ⟨taken, rfl, reads'⟩ := near.takes outcome
          have whole := reads []
          rw [List.append_nil, List.append_assoc, reads' (rest ++ missing)] at whole
          have nothing : rest ++ missing = [] := congrArg Prod.snd whole
          exact (short (List.append_eq_nil_iff.1 nothing).2).elim

/-! ## Codecs -/

/-- A writer gives the canonical bytes of the values that a reader returns. -/
structure Codec (reader : Reader α) (writer : α → Bytes) (canonical : α → Prop) : Prop where
  reads : ∀ value, canonical value → reader.Reads (writer value) value
  writes : ∀ {bytes value rest}, reader bytes = (.ok value, rest) →
    canonical value ∧ bytes = writer value ++ rest

theorem Codec.toLocal
    {reader : Reader α} {writer : α → Bytes} {canonical : α → Prop}
    (codec : Codec reader writer canonical) :
    reader.Local where
  takes := by
    intro bytes value rest read
    obtain ⟨known, rfl⟩ := codec.writes read
    exact ⟨writer value, rfl, codec.reads value known⟩

/-- Values may be taken for others, one by one. -/
theorem Codec.map
    {reader : Reader α} {writer : α → Bytes} {canonical : α → Prop} {canonical' : β → Prop}
    {pack : α → β} {unpack : β → α} (codec : Codec reader writer canonical)
    (unpacks : ∀ value, canonical' value → canonical (unpack value) ∧ pack (unpack value) = value)
    (packs : ∀ value, canonical value → canonical' (pack value) ∧ unpack (pack value) = value) :
    Codec (do return pack (← reader)) (fun value => writer (unpack value)) canonical' where
  reads := by
    intro value known
    obtain ⟨known, same⟩ := unpacks value known
    have reads := (codec.reads _ known).map pack
    rw [same] at reads
    exact reads
  writes := by
    intro bytes result rest read
    obtain ⟨value, between, read, last⟩ := bind_eq_ok_iff.1 read
    cases last
    obtain ⟨known, rfl⟩ := codec.writes read
    obtain ⟨known, same⟩ := packs value known
    exact ⟨known, by rw [same]⟩

/-! ### Accesses

What is required for a word or a text is what is taken of it, so a shorter buffer is refused
untouched. -/

theorem ofAccess_apply
    {access : Access α} {secure : access.Secure} {bytes rest : Bytes} {result : Except String α}
    (steps : access bytes = some (result, rest)) :
    ofAccess access secure bytes = (result.mapError .protocol, rest) := by
  simp only [ofAccess, steps, Option.get_some]

section

variable {width : Nat} {what : String} {bytes : Bytes}

theorem word_of_lt (short : bytes.length < width) :
    word width what width (Nat.le_refl width) bytes =
      (.error (.protocol s!"Not enough data for {what}"), bytes) :=
  ofAccess_apply (Access.guardedWord_of_lt short)

theorem word_of_le (enough : width ≤ bytes.length) :
    word width what width (Nat.le_refl width) bytes =
      (.ok (ofBigEndian (bytes.take width)), bytes.drop width) :=
  ofAccess_apply ((Access.guardedWord_of_le enough).trans (Access.word_of_le enough))

end

section

variable {length : Nat} {bytes : Bytes}

theorem textBytes_of_lt (short : bytes.length < length) :
    textBytes length bytes =
      (.error (.protocol
        s!"Not enough data for string: expected {length}, got {bytes.length}"), bytes) :=
  ofAccess_apply (Access.guardedText_of_lt short)

theorem textBytes_of_le (enough : length ≤ bytes.length) :
    textBytes length bytes = (.ok (bytes.take length), bytes.drop length) :=
  ofAccess_apply (Access.guardedText_of_le enough)

end

theorem codec_textBytes (length : Nat) :
    Codec (textBytes length) id (fun bytes => bytes.length = length) where
  reads := by
    rintro bytes rfl rest
    rw [textBytes_of_le (List.length_append ▸ Nat.le_add_right _ _)]
    simp
  writes := by
    intro bytes taken rest read
    rcases Nat.lt_or_ge bytes.length length with short | enough
    · rw [textBytes_of_lt short] at read
      cases read
    · rw [textBytes_of_le enough] at read
      cases read
      exact ⟨List.length_take_of_le enough, (List.take_append_drop ..).symm⟩

/-- Numbers below the weight of their width are written in digits. -/
theorem codec_word (width : Nat) (what : String) :
    Codec (word width what width (Nat.le_refl width)) (bigEndian width)
      (fun value => value < Nat.pow 256 width) where
  reads := by
    intro value small rest
    have length := length_bigEndian width value
    rw [word_of_le (by rw [List.length_append, length]; exact Nat.le_add_right _ _),
      List.take_left' length, List.drop_left' length, ofBigEndian_bigEndian,
      Nat.mod_eq_of_lt small]
  writes := by
    intro bytes value rest read
    rcases Nat.lt_or_ge bytes.length width with short | enough
    · rw [word_of_lt short] at read
      cases read
    · rw [word_of_le enough] at read
      cases read
      have length := List.length_take_of_le enough
      have small := ofBigEndian_lt (bytes.take width)
      have digits := bigEndian_ofBigEndian (bytes.take width)
      rw [length] at small digits
      exact ⟨small, by rw [digits, List.take_append_drop]⟩

/-- A word of a machine type. -/
theorem codec_machineWord
    {width : Nat} (what : String) {pack : Nat → β} {unpack : β → Nat}
    (small : ∀ value, unpack value < Nat.pow 256 width)
    (unpacks : ∀ value, pack (unpack value) = value)
    (packs : ∀ value, value < Nat.pow 256 width → unpack (pack value) = value) :
    Codec (do return pack (← word width what width (Nat.le_refl width)))
      (fun value => bigEndian width (unpack value))
      (fun _ => True) :=
  (codec_word width what).map (fun value _ => ⟨small value, unpacks value⟩)
    fun value known => ⟨trivial, packs value known⟩

theorem codec_uint8 : Codec uint8 Writer.uint8 (fun _ => True) :=
  codec_machineWord "u8" UInt8.toNat_lt (fun _ => UInt8.ofNat_toNat)
    fun _ small => UInt8.toNat_ofNat_of_lt' small

theorem codec_int32 : Codec int32 Writer.int32 (fun _ => True) :=
  codec_machineWord "i32" (fun value => value.toUInt32.toNat_lt)
    (fun value => by rw [UInt32.ofNat_toNat]; exact value.toInt32_toUInt32)
    fun value small => by
      rw [UInt32.toUInt32_toInt32]
      exact UInt32.toNat_ofNat_of_lt' small

theorem codec_uint32 : Codec uint32 Writer.uint32 (fun _ => True) :=
  codec_machineWord "u32" UInt32.toNat_lt (fun _ => UInt32.ofNat_toNat)
    fun _ small => UInt32.toNat_ofNat_of_lt' small

theorem codec_uint64 : Codec uint64 Writer.uint64 (fun _ => True) :=
  codec_machineWord "u64" UInt64.toNat_lt (fun _ => UInt64.ofNat_toNat)
    fun _ small => UInt64.toNat_ofNat_of_lt' small

/-! ## Texts and locations -/

/-- The length of a text fits into its prefix. -/
theorem reads_text
    {value : String} (short : (encodeText value).length < UInt32.size) :
    text.Reads (Writer.text value) value := by
  have length := (codec_word 4 "string length").reads _ short
  have characters := (codec_textBytes (encodeText value).length).reads _ rfl
  have whole : text.Reads (Writer.count (encodeText value).length ++ (encodeText value ++ []))
      value := by
    refine length.bind (characters.bind ?_)
    rw [decodeText_encodeText]
    exact reads_pure value
  rw [List.append_nil] at whole
  exact whole

theorem local_text : text.Local := by
  refine (codec_word 4 "string length").toLocal.bind fun length => ?_
  refine (codec_textBytes length).toLocal.bind fun bytes => ?_
  cases decodeText bytes with
  | ok text => exact local_pure text
  | error flaw => exact local_fail _

theorem reads_location (value : Location) : location.Reads (Writer.location value) value := by
  have tag := codec_uint8.reads value.typeTag trivial
  have type := codec_uint64.reads value.classId trivial
  have method := codec_uint64.reads value.methodId trivial
  have index := (codec_uint64.reads value.index trivial).map
    (Location.mk value.typeTag value.classId value.methodId)
  have whole : location.Reads (Writer.uint8 value.typeTag ++ (Writer.uint64 value.classId ++
      (Writer.uint64 value.methodId ++ Writer.uint64 value.index))) value :=
    tag.bind (type.bind (method.bind index))
  rw [← List.append_assoc, ← List.append_assoc] at whole
  exact whole

theorem local_location : location.Local :=
  codec_uint8.toLocal.bind fun _ => codec_uint64.toLocal.bind fun _ =>
    codec_uint64.toLocal.bind fun _ => codec_uint64.toLocal.map _

end Reader

end FrameEval.Wire
