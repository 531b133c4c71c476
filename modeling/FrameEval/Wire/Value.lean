import FrameEval.Primitive.Basic

/-!
# Values on the wire

A wire value is a tag byte with data.  Sixteen tags are known: the eight primitive kinds,
void, and seven kinds of objects, which all carry an object id.  Tag and data are kept
apart because a target may send a tag that does not fit its data; `WellFormed` says when
they agree.
-/

namespace FrameEval.Wire

/-- Identifiers are opaque 64-bit words. -/
abbrev ObjectId := UInt64

abbrev ThreadId := UInt64

abbrev TypeId := UInt64

abbrev MethodId := UInt64

abbrev FieldId := UInt64

abbrev FrameId := UInt64

/-- A position in the code of the target. -/
structure Location where
  /-- 1 for a class, 2 for an interface, 3 for an array type. -/
  typeTag : UInt8
  classId : TypeId
  methodId : MethodId
  /-- The bytecode index. -/
  index : UInt64
  deriving DecidableEq

/-- Whether two positions lie in the same method. -/
def Location.sameMethod (first second : Location) : Bool :=
  first.classId = second.classId && first.methodId = second.methodId

/-- The kinds of objects that have a tag of their own. -/
inductive ObjectKind where
  | array
  | object
  | string
  | thread
  | threadGroup
  | classLoader
  | classObject
  deriving DecidableEq

/-- The known tags. -/
inductive Tag where
  | primitive (kind : PrimitiveKind)
  | object (kind : ObjectKind)
  | void
  deriving DecidableEq

namespace ObjectKind

/-- The tag byte of a kind of object. -/
def tag : ObjectKind → UInt8
  | array => 91
  | object => 76
  | string => 115
  | thread => 116
  | threadGroup => 103
  | classLoader => 108
  | classObject => 99

end ObjectKind

namespace Tag

/-- The byte of a tag. -/
def byte : Tag → UInt8
  | primitive kind => kind.tag
  | object kind => kind.tag
  | void => 86

/-- The tag with a given byte. -/
def ofByte? (byte : UInt8) : Option Tag :=
  match PrimitiveKind.ofTag? byte with
  | some kind => some (primitive kind)
  | none =>
      if byte = 91 then some (object .array)
      else if byte = 76 then some (object .object)
      else if byte = 115 then some (object .string)
      else if byte = 116 then some (object .thread)
      else if byte = 103 then some (object .threadGroup)
      else if byte = 108 then some (object .classLoader)
      else if byte = 99 then some (object .classObject)
      else if byte = 86 then some void
      else none

@[simp]
theorem ofByte?_byte (tag : Tag) : ofByte? tag.byte = some tag := by
  cases tag with
  | primitive kind => cases kind <;> rfl
  | object kind => cases kind <;> rfl
  | void => rfl

/-- Whether values of the tag are object ids. -/
def isObject : Tag → Bool
  | object _ => true
  | _ => false

end Tag

/-- The data of a wire value. -/
inductive Data where
  | byte (value : Int8)
  | char (value : UInt16)
  | float (value : Single)
  | double (value : Double)
  | int (value : Int32)
  | long (value : Int64)
  | short (value : Int16)
  | boolean (value : Bool)
  | object (id : ObjectId)
  | void
  deriving DecidableEq

namespace Data

/-- The data of a primitive. -/
def ofPrimitive : Primitive → Data
  | .boolean value => boolean value
  | .byte value => byte value
  | .char value => char value
  | .short value => short value
  | .int value => int value
  | .long value => long value
  | .float value => float value
  | .double value => double value

/-- The primitive that data hold, if it is one. -/
def toPrimitive? : Data → Option Primitive
  | boolean value => some (.boolean value)
  | byte value => some (.byte value)
  | char value => some (.char value)
  | short value => some (.short value)
  | int value => some (.int value)
  | long value => some (.long value)
  | float value => some (.float value)
  | double value => some (.double value)
  | object _ | void => none

/-- A primitive comes back from its data, and the data of a primitive from it. -/
theorem toPrimitive?_eq_some_iff {data : Data} {value : Primitive} :
    data.toPrimitive? = some value ↔ data = ofPrimitive value := by
  constructor
  · intro held
    cases data <;> cases held <;> rfl
  · rintro rfl
    cases value <;> rfl

@[simp]
theorem toPrimitive?_ofPrimitive (value : Primitive) :
    (ofPrimitive value).toPrimitive? = some value :=
  toPrimitive?_eq_some_iff.2 rfl

theorem ofPrimitive_ne_void (value : Primitive) : ofPrimitive value ≠ void := by
  cases value <;> exact Data.noConfusion

/-- Data are those of a primitive, an object id, or none. -/
theorem exists_shape (data : Data) :
    (∃ value, data = ofPrimitive value) ∨ (∃ id, data = object id) ∨ data = void := by
  cases held : data.toPrimitive? with
  | some value => exact .inl ⟨value, toPrimitive?_eq_some_iff.1 held⟩
  | none =>
      right
      cases data with
      | object id => exact .inl ⟨id, rfl⟩
      | void => exact .inr rfl
      | byte | char | float | double | int | long | short | boolean => cases held

end Data

/-- A wire value. -/
structure Value where
  tag : UInt8
  data : Data
  deriving DecidableEq

namespace Value

/-- A primitive under the tag of its kind. -/
def ofPrimitive (value : Primitive) : Value := ⟨value.kind.tag, .ofPrimitive value⟩

/-- An object id under the tag of its kind. -/
def ofObject (kind : ObjectKind) (id : ObjectId) : Value := ⟨kind.tag, .object id⟩

/-- The null reference: the object id zero. -/
def null : Value := ofObject .object 0

def void : Value := ⟨Tag.void.byte, .void⟩

/-- Whether the value is the null reference. -/
def isNull (value : Value) : Bool :=
  value.data = .object 0

/-- The tag that data goes with: its kind, some kind of object, or void. -/
def Fits : Data → Tag → Prop
  | .byte _, tag => tag = .primitive .byte
  | .char _, tag => tag = .primitive .char
  | .float _, tag => tag = .primitive .float
  | .double _, tag => tag = .primitive .double
  | .int _, tag => tag = .primitive .int
  | .long _, tag => tag = .primitive .long
  | .short _, tag => tag = .primitive .short
  | .boolean _, tag => tag = .primitive .boolean
  | .object _, tag => tag.isObject = true
  | .void, tag => tag = .void

@[simp]
theorem fits_ofPrimitive_iff {value : Primitive} {tag : Tag} :
    Fits (.ofPrimitive value) tag ↔ tag = .primitive value.kind := by
  cases value <;> exact Iff.rfl

/-- The tag is known and agrees with the data. -/
def WellFormed (value : Value) : Prop :=
  ∃ tag, Tag.ofByte? value.tag = some tag ∧ Fits value.data tag

/-- The text of a wire value, a lone surrogate shown as a question mark. -/
def display (value : Value) : String :=
  match value.data with
  | .byte value => s!"(byte) {value.toInt}"
  | .char value => "(char) '" ++ String.singleton (Primitive.unitChar value '?') ++ "'"
  | .float value => s!"(float) {value.display}"
  | .double value => s!"(double) {value.display}"
  | .int value => s!"(int) {value.toInt}"
  | .long value => s!"(long) {value.toInt}"
  | .short value => s!"(short) {value.toInt}"
  | .boolean value => s!"(boolean) {value}"
  | .object id =>
      if id = 0 then "(object) null"
      else "(object) @" ++ String.ofList (Nat.toDigits 16 id.toNat)
  | .void => "(void)"

end Value

end FrameEval.Wire
