import FrameEval.EvalError
import FrameEval.Signature
import FrameEval.Text.Numeral
import FrameEval.Wire.Value

/-!
# Remote values

A remote value is a primitive or a handle into the heap of the target.  A handle is an id
with a tag, or for an array with its element type; everything else about the object costs
a question to the target.
-/

namespace FrameEval

open Wire

/-- A handle of an object that is not an array. -/
structure ObjectHandle where
  id : ObjectId
  /-- The tag byte under which the target sent the object. -/
  tag : UInt8
  deriving DecidableEq

namespace ObjectHandle

/-- A handle of an object without a tag of its own. -/
def plain (id : ObjectId) : ObjectHandle := ⟨id, ObjectKind.object.tag⟩

/-- A handle of a string. -/
def string (id : ObjectId) : ObjectHandle := ⟨id, ObjectKind.string.tag⟩

/-- Whether the tag is that of strings. -/
def isString (handle : ObjectHandle) : Bool :=
  handle.tag = ObjectKind.string.tag

end ObjectHandle

/-- The type of the elements of an array. -/
inductive ElementType where
  | primitive (kind : PrimitiveKind)
  | reference (signature : String)
  deriving DecidableEq

namespace ElementType

/-- The element type with a given signature. -/
def ofSignature (signature : String) : ElementType :=
  match PrimitiveKind.ofSignature? signature with
  | some kind => primitive kind
  | none => reference signature

/-- The signature of an element type. -/
def signature : ElementType → String
  | primitive kind => kind.signature
  | reference signature => signature

/-- Whether the element type is the one that its signature stands for. -/
def Canonical (element : ElementType) : Prop :=
  ofSignature element.signature = element

end ElementType

/-- A handle of an array. -/
structure ArrayHandle where
  id : ObjectId
  element : ElementType
  deriving DecidableEq

namespace ArrayHandle

/-- The signature of the array itself. -/
def signature (array : ArrayHandle) : String :=
  "[" ++ array.element.signature

/-- The array of a given id and signature. -/
def ofSignature (id : ObjectId) (signature : String) : Except EvalError ArrayHandle :=
  match signature.toList with
  | '[' :: component => .ok ⟨id, .ofSignature (String.ofList component)⟩
  | _ => .error (.protocol s!"not an array signature: {signature}")

end ArrayHandle

/-- A value that lives in the target, or that is on its way there. -/
inductive RemoteValue where
  | primitive (value : Primitive)
  | object (handle : ObjectHandle)
  | array (handle : ArrayHandle)
  | null
  | void
  deriving DecidableEq

namespace RemoteValue

instance : Inhabited RemoteValue := ⟨null⟩

def int (value : Int32) : RemoteValue := primitive (.int value)

def boolean (value : Bool) : RemoteValue := primitive (.boolean value)

/-- Whether a value is the null reference. -/
def isNull : RemoteValue → Bool
  | null => true
  | _ => false

/-- Whether a value is an object, an array or null. -/
def isReference : RemoteValue → Bool
  | object _ => true
  | array _ => true
  | null => true
  | _ => false

/-- The id of an object or an array. -/
def objectId? : RemoteValue → Option ObjectId
  | object handle => some handle.id
  | array handle => some handle.id
  | _ => none

/-- Whether two references are the same object; null is the same only as null. -/
def sameObject (first second : RemoteValue) : Bool :=
  match first.objectId?, second.objectId? with
  | some firstId, some secondId => firstId = secondId
  | _, _ => first.isNull && second.isNull

/-- The type of a value as far as it is known without a question. -/
def typeName : RemoteValue → String
  | primitive value => value.kind.name
  | object handle => if handle.isString then "java.lang.String" else "object"
  | array handle => handle.signature
  | null => "null"
  | void => "void"

/-- The text of a value as far as it is known without a question. -/
def display : RemoteValue → String
  | primitive value => value.display
  | object handle => "(object) @" ++ Text.hex handle.id.toNat
  | array handle => "(array) " ++ handle.signature ++ " @" ++ Text.hex handle.id.toNat
  | null => "null"
  | void => "(void)"

/-- The value that fresh fields and array elements of an element type hold. -/
def default : ElementType → RemoteValue
  | .primitive kind => primitive (Primitive.default kind)
  | .reference _ => null

end RemoteValue

end FrameEval
