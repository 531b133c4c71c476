import FrameEval.Wire.ClientError
import FrameEval.Wire.Value

/-!
# What the target says about frames and members

The records that the target returns about a frame, its variables, and the declared fields
and methods of a type.
-/

namespace FrameEval.Wire

/-- One entry of the variable table of a method. -/
structure Variable where
  /-- The first code index at which the variable is live. -/
  codeIndex : UInt64
  name : String
  signature : String
  /-- The number of code indices at which it is live. -/
  length : UInt32
  slot : UInt32
  deriving DecidableEq

/-- Whether a variable is live at a code index.  The end of its scope is a word, so a scope that
reaches beyond the last code index wraps around. -/
def Variable.isLiveAt (entry : Variable) (codeIndex : UInt64) : Bool :=
  entry.codeIndex ≤ codeIndex && codeIndex < entry.codeIndex + entry.length.toUInt64

/-- A frame of a suspended thread. -/
structure FrameInfo where
  id : FrameId
  location : Location
  deriving DecidableEq

/-- A slot of a frame with the type under which it is read. -/
structure VariableSlot where
  slot : Int32
  /-- The first byte of the signature of the variable. -/
  typeByte : UInt8
  deriving DecidableEq

/-- The slot of a variable; an empty signature counts as that of an object. -/
def VariableSlot.of (slot : UInt32) (signature : String) : Except ClientError VariableSlot :=
  if (slot.toNat : Int) ≤ Int32.maxValue.toInt then
    .ok ⟨slot.toInt32, (signature.toUTF8.data.toList.head?).getD ObjectKind.object.tag⟩
  else .error (.protocol s!"slot {slot.toNat} does not fit a JDWP int")

/-- The modifier bit of static members. -/
def staticBit : UInt32 := 8

/-- Whether the modifiers of a member have the static bit. -/
def isStaticModifier (modifiers : Int32) : Bool :=
  modifiers.toUInt32 &&& staticBit ≠ 0

/-- A declared field. -/
structure FieldInfo where
  id : FieldId
  name : String
  signature : String
  modifiers : Int32
  deriving DecidableEq

/-- Whether a declared field is static. -/
def FieldInfo.isStatic (field : FieldInfo) : Bool :=
  isStaticModifier field.modifiers

/-- A declared method. -/
structure MethodInfo where
  id : MethodId
  name : String
  signature : String
  modifiers : Int32
  deriving DecidableEq

/-- Whether a declared method is static. -/
def MethodInfo.isStatic (method : MethodInfo) : Bool :=
  isStaticModifier method.modifiers

/-- The number of bytes of each sort of id. -/
structure IdSizes where
  field : Int32
  method : Int32
  object : Int32
  referenceType : Int32
  frame : Int32
  deriving DecidableEq

/-- Whether every id has eight bytes, the only size that this client reads. -/
def IdSizes.allEightBytes (sizes : IdSizes) : Bool :=
  [sizes.field, sizes.method, sizes.object, sizes.referenceType, sizes.frame].all (· = 8)

end FrameEval.Wire
