import FrameEval.Proofs.Wire.Reading

/-!
# Values on the wire and back

Every well-formed value is read back from its bytes, and so is every short text and every
location, one after another in any mixture.  Conversely a value that is read is well-formed, and
its bytes are those it was read from, except that a boolean has one way to be true.

A primitive is a number in as many bytes as its kind has; `Primitive.word` and
`Primitive.ofWord` are the two halves of this, for all kinds at once.
-/

namespace FrameEval

open Wire

namespace PrimitiveKind

/-- How many bytes a primitive has on the wire. -/
def width : PrimitiveKind → Nat
  | boolean => 1
  | byte => 1
  | char => 2
  | short => 2
  | int => 4
  | long => 8
  | float => 4
  | double => 8

theorem tag_of_ofTag?
    {byte : UInt8} {kind : PrimitiveKind} (known : ofTag? byte = some kind) :
    byte = kind.tag := by
  unfold ofTag? at known
  grind [tag]

end PrimitiveKind

namespace Primitive

/-- The number that stands for a primitive on the wire. -/
def word : Primitive → Nat
  | boolean value => if value then 1 else 0
  | byte value => value.toUInt8.toNat
  | char value => value.toNat
  | short value => value.toUInt16.toNat
  | int value => value.toUInt32.toNat
  | long value => value.toUInt64.toNat
  | float value => value.word
  | double value => value.word

/-- The primitive of a kind for which a number stands. -/
def ofWord : PrimitiveKind → Nat → Primitive
  | .boolean, word => boolean (UInt8.ofNat word ≠ 0)
  | .byte, word => byte (UInt8.ofNat word).toInt8
  | .char, word => char (UInt16.ofNat word)
  | .short, word => short (UInt16.ofNat word).toInt16
  | .int, word => int (UInt32.ofNat word).toInt32
  | .long, word => long (UInt64.ofNat word).toInt64
  | .float, word => float (.ofWord word)
  | .double, word => double (.ofWord word)

@[simp]
theorem kind_ofWord (kind : PrimitiveKind) (word : Nat) : (ofWord kind word).kind = kind := by
  cases kind <;> rfl

theorem word_lt (value : Primitive) : value.word < Nat.pow 256 value.kind.width := by
  cases value with
  | boolean value => cases value <;> decide
  | byte value => exact value.toUInt8.toNat_lt
  | char value => exact value.toNat_lt
  | short value => exact value.toUInt16.toNat_lt
  | int value => exact value.toUInt32.toNat_lt
  | long value => exact value.toUInt64.toNat_lt
  | float value => exact value.bits.toNat_lt
  | double value => exact value.bits.toNat_lt

theorem ofWord_word (value : Primitive) : ofWord value.kind value.word = value := by
  cases value with
  | boolean value => cases value <;> rfl
  | byte value => simp [ofWord, word, kind]
  | char value => simp [ofWord, word, kind]
  | short value => simp [ofWord, word, kind]
  | int value => simp [ofWord, word, kind]
  | long value => simp [ofWord, word, kind]
  | float value => simp [ofWord, word, kind, Single.ofWord, Single.word]
  | double value => simp [ofWord, word, kind, Double.ofWord, Double.word]

/-- Apart from booleans, numbers of the width of a kind stand for different primitives. -/
theorem word_ofWord
    {kind : PrimitiveKind} (several : kind ≠ .boolean) {number : Nat}
    (small : number < Nat.pow 256 kind.width) :
    (ofWord kind number).word = number := by
  cases kind with
  | boolean => exact (several rfl).elim
  | byte => exact UInt8.toNat_ofNat_of_lt' small
  | char => exact UInt16.toNat_ofNat_of_lt' small
  | short => exact UInt16.toNat_ofNat_of_lt' small
  | int => exact UInt32.toNat_ofNat_of_lt' small
  | long => exact UInt64.toNat_ofNat_of_lt' small
  | float => exact UInt32.toNat_ofNat_of_lt' small
  | double => exact UInt64.toNat_ofNat_of_lt' small

end Primitive

namespace Wire

/-! ## Primitives -/

theorem Writer.value_ofPrimitive (tag : UInt8) (value : Primitive) :
    Writer.value ⟨tag, .ofPrimitive value⟩ = bigEndian value.kind.width value.word := by
  cases value <;> rfl

namespace Reader

/-- Two steps that only convert are one. -/
theorem map_map
    {α β γ : Type} (reader : Reader α) (first : α → β) (second : β → γ) :
    (do return second (← (do return first (← reader)))) = do return second (first (← reader)) := by
  funext bytes
  show bind (bind reader _) _ bytes = bind reader _ bytes
  unfold bind
  rcases reader bytes with ⟨_ | value, rest⟩
  · rfl
  · rfl

/-- For a primitive, just the bytes of its word are required and taken. -/
theorem data_primitive (kind : PrimitiveKind) :
    ∃ what, data (.primitive kind) = do
      return .ofPrimitive (.ofWord kind (← word kind.width what kind.width (Nat.le_refl _))) := by
  cases kind with
  | boolean => exact ⟨"u8", map_map _ _ _⟩
  | int => exact ⟨"i32", map_map _ _ _⟩
  | byte | char | short | long | float | double => exact ⟨_, rfl⟩

theorem reads_primitive (tag : UInt8) (value : Primitive) :
    (data (.primitive value.kind)).Reads (Writer.value ⟨tag, .ofPrimitive value⟩)
      (.ofPrimitive value) := by
  obtain ⟨what, same⟩ := data_primitive value.kind
  have digits := (codec_word value.kind.width what).reads value.word value.word_lt
  have read := digits.map fun word => Data.ofPrimitive (.ofWord value.kind word)
  rw [value.ofWord_word] at read
  rw [same, Writer.value_ofPrimitive]
  exact read

/-- A primitive that is read is the one that its digits stand for. -/
theorem takes_primitive
    {kind : PrimitiveKind} {bytes rest : Bytes} {value : Data}
    (read : data (.primitive kind) bytes = (.ok value, rest)) :
    ∃ digits, digits.length = kind.width ∧ bytes = digits ++ rest ∧
      value = .ofPrimitive (.ofWord kind (ofBigEndian digits)) := by
  obtain ⟨what, same⟩ := data_primitive kind
  rw [same] at read
  obtain ⟨number, between, read, last⟩ := bind_eq_ok_iff.1 read
  cases last
  obtain ⟨small, rfl⟩ := (codec_word kind.width what).writes read
  refine ⟨bigEndian kind.width number, length_bigEndian _ _, rfl, ?_⟩
  rw [ofBigEndian_bigEndian, Nat.mod_eq_of_lt small]

end Reader

/-! ## Values -/

theorem Tag.byte_of_ofByte?
    {byte : UInt8} {tag : Tag} (known : ofByte? byte = some tag) :
    byte = tag.byte := by
  unfold ofByte? at known
  split at known
  · next kind found =>
      cases known
      exact PrimitiveKind.tag_of_ofTag? found
  · grind [Tag.byte, ObjectKind.tag]

/-- The bytes that are written for a value that was read from some: a boolean that is not zero
is a one. -/
def normalised : Bytes → Bytes
  | [tag, byte] =>
      if tag = PrimitiveKind.boolean.tag ∧ byte ≠ 0 then [tag, 1] else [tag, byte]
  | bytes => bytes

theorem normalised_of_ne
    {tag : UInt8} (other : tag ≠ PrimitiveKind.boolean.tag) (bytes : Bytes) :
    normalised (tag :: bytes) = tag :: bytes := by
  unfold normalised
  split
  · next same =>
      cases same
      exact if_neg fun boolean => other boolean.1
  · rfl

@[simp]
theorem Writer.uint8_eq (byte : UInt8) : Writer.uint8 byte = [byte] := by
  have small : byte.toNat % 256 = byte.toNat := Nat.mod_eq_of_lt byte.toNat_lt
  simp [Writer.uint8, bigEndian, small]

/-- Every boolean but zero is written as a one. -/
theorem Writer.boolean_of_byte (tag byte : UInt8) :
    Writer.value ⟨tag, .ofPrimitive (.ofWord .boolean byte.toNat)⟩ =
      [if byte = 0 then 0 else 1] := by
  by_cases zero : byte = 0
  · subst zero
    rfl
  · have set : Primitive.ofWord .boolean byte.toNat = .boolean true := by
      simp [Primitive.ofWord, zero]
    rw [set, if_neg zero]
    rfl

/-- Any other primitive is written as the digits that it was read from. -/
theorem Writer.primitive_of_digits
    {kind : PrimitiveKind} (several : kind ≠ .boolean) {digits : Bytes}
    (width : digits.length = kind.width) (tag : UInt8) :
    Writer.value ⟨tag, .ofPrimitive (.ofWord kind (ofBigEndian digits))⟩ = digits := by
  have small : ofBigEndian digits < Nat.pow 256 kind.width := width ▸ ofBigEndian_lt digits
  rw [Writer.value_ofPrimitive, Primitive.kind_ofWord, Primitive.word_ofWord several small, ← width,
    bigEndian_ofBigEndian]

theorem Writer.tagged_of_digits
    {kind : PrimitiveKind} {digits : Bytes} (width : digits.length = kind.width) :
    Writer.tagged ⟨kind.tag, .ofPrimitive (.ofWord kind (ofBigEndian digits))⟩ =
      normalised (kind.tag :: digits) := by
  rw [Writer.tagged, Writer.uint8_eq]
  by_cases boolean : kind = .boolean
  · subst boolean
    obtain ⟨byte, rfl⟩ := List.length_eq_one_iff.1 width
    have number : ofBigEndian [byte] = byte.toNat := by simp [ofBigEndian]
    rw [number, Writer.boolean_of_byte]
    by_cases zero : byte = 0
    · simp [normalised, zero]
    · simp [normalised, zero]
  · have other : kind.tag ≠ PrimitiveKind.boolean.tag := by
      intro same
      have again := PrimitiveKind.ofTag?_tag kind
      rw [same, PrimitiveKind.ofTag?_tag] at again
      exact boolean (Option.some.inj again).symm
    rw [normalised_of_ne other, Writer.primitive_of_digits boolean width]
    rfl

namespace Reader

theorem reads_data
    {tag : Tag} {value : Data} (fits : Value.Fits value tag) (byte : UInt8) :
    (data tag).Reads (Writer.value ⟨byte, value⟩) value := by
  rcases value.exists_shape with ⟨primitive, rfl⟩ | ⟨id, rfl⟩ | rfl
  · obtain rfl := Value.fits_ofPrimitive_iff.1 fits
    exact reads_primitive byte primitive
  · cases tag with
    | object kind => exact (codec_uint64.reads id trivial).map Data.object
    | primitive kind => cases fits
    | void => cases fits
  · obtain rfl : tag = .void := fits
    exact reads_pure Data.void

/-- What is read under a tag fits it, and is written as it was read. -/
theorem takes_data
    {tag : Tag} {bytes rest : Bytes} {value : Data} (read : data tag bytes = (.ok value, rest)) :
    Value.Fits value tag ∧ ∃ taken, bytes = taken ++ rest ∧
      Writer.tagged ⟨tag.byte, value⟩ = normalised (tag.byte :: taken) := by
  cases tag with
  | primitive kind =>
      obtain ⟨digits, width, rfl, rfl⟩ := takes_primitive read
      refine ⟨Value.fits_ofPrimitive_iff.2 ?_, digits, rfl, Writer.tagged_of_digits width⟩
      rw [Primitive.kind_ofWord]
  | object kind =>
      obtain ⟨id, between, read, last⟩ := bind_eq_ok_iff.1 read
      cases last
      obtain ⟨-, rfl⟩ := codec_uint64.writes read
      refine ⟨rfl, Writer.uint64 id, rfl, ?_⟩
      rw [normalised_of_ne (by cases kind <;> decide)]
      show Writer.uint8 _ ++ Writer.uint64 id = _
      rw [Writer.uint8_eq]
      rfl
  | void =>
      cases read
      exact ⟨rfl, [], rfl, rfl⟩

theorem reads_tagged
    {value : Value} (wellFormed : value.WellFormed) :
    tagged.Reads (Writer.tagged value) value := by
  obtain ⟨tag, known, fits⟩ := wellFormed
  have read : (Reader.value value.tag).Reads (Writer.value value) value := by
    unfold Reader.value
    rw [known]
    exact (reads_data fits value.tag).map (Value.mk value.tag)
  exact (codec_uint8.reads value.tag trivial).bind read

theorem takes_tagged
    {bytes rest : Bytes} {value : Value} (read : tagged bytes = (.ok value, rest)) :
    value.WellFormed ∧ ∃ taken, bytes = taken ++ rest ∧
      Writer.tagged value = normalised taken := by
  obtain ⟨byte, between, head, under⟩ := bind_eq_ok_iff.1 read
  obtain ⟨-, rfl⟩ := codec_uint8.writes head
  unfold Reader.value at under
  cases known : Tag.ofByte? byte with
  | none =>
      rw [known] at under
      cases under
  | some tag =>
      rw [known] at under
      obtain ⟨data, between, read, last⟩ := bind_eq_ok_iff.1 under
      cases last
      obtain ⟨fits, taken, rfl, written⟩ := takes_data read
      refine ⟨⟨tag, known, fits⟩, byte :: taken, by simp, ?_⟩
      rw [Tag.byte_of_ofByte? known]
      exact written

end Reader

/-! ## Sequences -/

/-- What may stand in a row on the wire. -/
inductive Item where
  | value (value : Value)
  | text (text : String)
  | location (location : Location)

/-- What is to be read from a row. -/
inductive Shape where
  | value
  | text
  | location

/-- Reading one thing of a shape. -/
def Shape.reader : Shape → Reader Item
  | value => do return .value (← Reader.tagged)
  | text => do return .text (← Reader.text)
  | location => do return .location (← Reader.location)

namespace Item

def shape : Item → Shape
  | .value _ => .value
  | .text _ => .text
  | .location _ => .location

def bytes : Item → Bytes
  | .value given => Writer.tagged given
  | .text given => Writer.text given
  | .location given => Writer.location given

/-- Values are well-formed, and texts are short enough for a length of four bytes. -/
def Writable : Item → Prop
  | .value given => given.WellFormed
  | .text given => (encodeText given).length < UInt32.size
  | .location _ => True

theorem reads
    {item : Item} (writable : item.Writable) : item.shape.reader.Reads item.bytes item := by
  cases item with
  | value given => exact (Reader.reads_tagged writable).map Item.value
  | text given => exact (Reader.reads_text writable).map Item.text
  | location given => exact (Reader.reads_location given).map Item.location

end Item

/-- Reading one thing after another. -/
def readAll : List Shape → Reader (List Item)
  | [] => return []
  | shape :: shapes => do
      let first ← shape.reader
      let rest ← readAll shapes
      return first :: rest

theorem reads_readAll
    {items : List Item} (writable : ∀ item ∈ items, item.Writable) :
    (readAll (items.map Item.shape)).Reads (items.map Item.bytes).flatten items := by
  induction items with
  | nil => exact Reader.reads_pure []
  | cons item items ih =>
      have first := Item.reads (writable item (List.mem_cons_self ..))
      have rest := ih fun other member => writable other (List.mem_cons_of_mem _ member)
      exact first.bind (rest.map (item :: ·))

/-- What is written in a row is read back in that order, with what follows left alone; a value
that is read is well-formed, and writing it again gives the bytes that it took, normalised. -/
theorem wire_items_round_trip :
    (∀ (items : List Item) (suffix : Bytes), (∀ item ∈ items, item.Writable) →
      readAll (items.map Item.shape) ((items.map Item.bytes).flatten ++ suffix) =
        (.ok items, suffix)) ∧
      (∀ (value : Value) (suffix : Bytes), value.WellFormed →
        Reader.tagged (Writer.tagged value ++ suffix) = (.ok value, suffix)) ∧
      (∀ (text : String) (suffix : Bytes), (encodeText text).length < UInt32.size →
        Reader.text (Writer.text text ++ suffix) = (.ok text, suffix)) ∧
      (∀ (location : Location) (suffix : Bytes),
        Reader.location (Writer.location location ++ suffix) = (.ok location, suffix)) ∧
      ∀ (value : Value) (bytes rest : Bytes), Reader.tagged bytes = (.ok value, rest) →
        value.WellFormed ∧ ∃ taken, bytes = taken ++ rest ∧
          Writer.tagged value = normalised taken := by
  refine ⟨fun items suffix writable => reads_readAll writable suffix,
    fun value suffix wellFormed => Reader.reads_tagged wellFormed suffix,
    fun text suffix short => Reader.reads_text short suffix,
    fun location suffix => Reader.reads_location location suffix,
    fun value bytes rest read => Reader.takes_tagged read⟩

/-- A value, a text and a location in a row, and a boolean that is neither zero nor one. -/
theorem mixed_row_is_read_back :
    (∀ item ∈ [Item.value (.ofPrimitive (.long (-1))), .text "né", .location ⟨1, 2, 3, 4⟩],
        item.Writable) ∧
      readAll [.value, .text, .location]
          (([Item.value (.ofPrimitive (.long (-1))), .text "né", .location ⟨1, 2, 3, 4⟩].map
            Item.bytes).flatten ++ [90, 7]) =
        (.ok [.value (.ofPrimitive (.long (-1))), .text "né", .location ⟨1, 2, 3, 4⟩], [90, 7]) ∧
      Reader.tagged [90, 7] = (.ok (.ofPrimitive (.boolean true)), []) ∧
      ∃ taken, [90, 7] = taken ++ [] ∧
        Writer.tagged (.ofPrimitive (.boolean true)) = normalised taken := by
  have writable : ∀ item ∈ [Item.value (.ofPrimitive (.long (-1))), .text "né",
      .location ⟨1, 2, 3, 4⟩], item.Writable := by
    intro item member
    simp only [List.mem_cons, List.not_mem_nil, or_false] at member
    rcases member with rfl | rfl | rfl
    · exact ⟨.primitive .long, rfl, rfl⟩
    · show (encodeText "né").length < UInt32.size
      decide
    · trivial
  have read : Reader.tagged [90, 7] = (.ok (.ofPrimitive (.boolean true)), []) := rfl
  exact ⟨writable, wire_items_round_trip.1 _ _ writable, read,
    (wire_items_round_trip.2.2.2.2 _ _ _ read).2⟩

end Wire

end FrameEval
