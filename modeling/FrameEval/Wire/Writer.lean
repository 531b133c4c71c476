import FrameEval.Wire.Utf8
import FrameEval.Wire.Value

/-!
# Writing to the wire

The bytes of each thing that `Wire.Reader` reads.
-/

namespace FrameEval.Wire.Writer

def uint8 (value : UInt8) : Bytes := bigEndian 1 value.toNat

def uint16 (value : UInt16) : Bytes := bigEndian 2 value.toNat

def uint32 (value : UInt32) : Bytes := bigEndian 4 value.toNat

def int32 (value : Int32) : Bytes := bigEndian 4 value.toUInt32.toNat

def uint64 (value : UInt64) : Bytes := bigEndian 8 value.toNat

/-- A count as a signed word; only the low 32 bits are kept. -/
def count (value : Nat) : Bytes := bigEndian 4 value

/-- A text after its length in bytes. -/
def text (value : String) : Bytes :=
  let bytes := encodeText value
  count bytes.length ++ bytes

def location (value : Location) : Bytes :=
  uint8 value.typeTag ++ uint64 value.classId ++ uint64 value.methodId ++ uint64 value.index

/-- A value without its tag, for places that know its type. -/
def value (value : Value) : Bytes :=
  match value.data with
  | .byte value => bigEndian 1 value.toUInt8.toNat
  | .char value => bigEndian 2 value.toNat
  | .float value => bigEndian 4 value.word
  | .double value => bigEndian 8 value.word
  | .int value => int32 value
  | .long value => bigEndian 8 value.toUInt64.toNat
  | .short value => bigEndian 2 value.toUInt16.toNat
  | .boolean value => bigEndian 1 (if value then 1 else 0)
  | .object id => uint64 id
  | .void => []

/-- A value after its tag. -/
def tagged (value : Value) : Bytes :=
  uint8 value.tag ++ Writer.value value

end FrameEval.Wire.Writer
