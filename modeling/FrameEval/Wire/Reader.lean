import FrameEval.Wire.Access
import FrameEval.Wire.ClientError
import FrameEval.Wire.Utf8
import FrameEval.Wire.Value

/-!
# Reading from the wire

A reader takes bytes from the front of a buffer.  It returns what it read or an error,
and in both cases the bytes that are left: what was read before a failing piece stays
consumed.  No reader looks past the bytes that it takes.

The pieces are words and texts.  Each is made of an access to the buffer that is known not to
overrun it.
-/

namespace FrameEval.Wire

/-- A reader of the front of a buffer. -/
def Reader (α : Type) : Type := Bytes → Except ClientError α × Bytes

namespace Reader

variable {α β : Type}

/-- Read nothing. -/
def pure (value : α) : Reader α := fun bytes => (.ok value, bytes)

/-- Read one thing, then another that depends on it. -/
def bind (first : Reader α) (second : α → Reader β) : Reader β := fun bytes =>
  match first bytes with
  | (.ok value, rest) => second value rest
  | (.error error, rest) => (.error error, rest)

instance : Monad Reader where
  pure := pure
  bind := bind

/-- Fail where the buffer stands. -/
def fail (detail : String) : Reader α := fun bytes => (.error (.protocol detail), bytes)

/-- Steps on a buffer that overrun none. -/
def ofAccess (access : Access α) (secure : access.Secure) : Reader α := fun bytes =>
  let (result, rest) := (access bytes).get (secure bytes)
  (result.mapError .protocol, rest)

/-- A number `width` bytes wide, for which `count` bytes are required. -/
def word (count : Nat) (what : String) (width : Nat) (enough : width ≤ count) : Reader Nat :=
  ofAccess (.guardedWord count what width) (Access.secure_guardedWord_iff.2 enough)

def uint8 : Reader UInt8 := do return UInt8.ofNat (← word 1 "u8" 1 (by decide))

def uint32 : Reader UInt32 := do return UInt32.ofNat (← word 4 "u32" 4 (by decide))

def int32 : Reader Int32 := do return (UInt32.ofNat (← word 4 "i32" 4 (by decide))).toInt32

def uint64 : Reader UInt64 := do return UInt64.ofNat (← word 8 "u64" 8 (by decide))

/-- The bytes of a text whose length was read, all of them or none. -/
def textBytes (length : Nat) : Reader Bytes :=
  ofAccess (.guardedText length) (Access.secure_guardedText length)

/-- A text: its length in bytes, then its UTF-8 encoding. -/
def text : Reader String := do
  let length ← word 4 "string length" 4 (by decide)
  let bytes ← textBytes length
  match decodeText bytes with
  | .ok text => return text
  | .error flaw => fail s!"Invalid UTF-8 in string: {flaw.message}"

def location : Reader Location := do
  let typeTag ← uint8
  let classId ← uint64
  let methodId ← uint64
  let index ← uint64
  return ⟨typeTag, classId, methodId, index⟩

/-- The data of a value whose tag is known. -/
def data : Tag → Reader Data
  | .primitive .byte => do return .byte (UInt8.ofNat (← word 1 "byte" 1 (by decide))).toInt8
  | .primitive .char => do return .char (UInt16.ofNat (← word 2 "char" 2 (by decide)))
  | .primitive .double => do return .double (.ofWord (← word 8 "double" 8 (by decide)))
  | .primitive .float => do return .float (.ofWord (← word 4 "float" 4 (by decide)))
  | .primitive .int => do return .int (← int32)
  | .primitive .long => do return .long (UInt64.ofNat (← word 8 "long" 8 (by decide))).toInt64
  | .primitive .short => do return .short (UInt16.ofNat (← word 2 "short" 2 (by decide))).toInt16
  | .primitive .boolean => do return .boolean ((← uint8) ≠ 0)
  | .object _ => do return .object (← uint64)
  | .void => return .void

/-- A value without its tag, which the caller knows. -/
def value (tag : UInt8) : Reader Value :=
  match Tag.ofByte? tag with
  | some known => do return ⟨tag, ← data known⟩
  | none => fail s!"Unknown value tag: {tag.toNat}"

/-- A value after its tag. -/
def tagged : Reader Value := do
  let tag ← uint8
  value tag

/-- An object id after its tag, which may be any byte. -/
def taggedObject : Reader (UInt8 × ObjectId) := do
  let tag ← uint8
  let id ← uint64
  return (tag, id)

/-- So many things in a row. -/
def times (item : Reader α) : Nat → Reader (List α)
  | 0 => return []
  | count + 1 => do
      let first ← item
      let rest ← times item count
      return first :: rest

/-- A count and so many things; a count below zero stands for none.  Reserving room for as many as
announced is left out: whether there is so much depends on the machine and not on the bytes. -/
def counted (item : Reader α) : Reader (List α) := do
  let count ← int32
  times item count.toInt.toNat

/-- What a reader makes of a whole buffer, whatever it leaves. -/
def run (reader : Reader α) (bytes : Bytes) : Except ClientError α :=
  (reader bytes).1

end Reader

end FrameEval.Wire
