import FrameEval.Remote.Hierarchy
import FrameEval.Remote.Operation
import FrameEval.RemoteValue.Wire
import FrameEval.Wire.Call.Invocation
import FrameEval.Wire.Call.Object
import FrameEval.Wire.Call.Thread

/-!
# What a target at the other end of a link answers

Each operation as an errand.  Values that arrive are classified, which costs further calls only
for arrays.  While an invocation is under way, and no longer, its thread is marked.
-/

namespace FrameEval.Remote

open Wire

/-- How a target is used. -/
structure Usage where
  /-- Whether only the evaluating thread runs while the target runs code. -/
  singleThreaded : Bool
  /-- How many types one search of a type hierarchy may look at. -/
  searchLimit : Nat

/-- The options of an invocation. -/
def Usage.options (usage : Usage) : Int32 :=
  if usage.singleThreaded then Wire.singleThreaded else 0

namespace Errand

/-- The remote value of a wire value; the type of an array is asked for. -/
def classified (value : Wire.Value) : Errand RemoteValue := do
  match ← ofExcept (RemoteValue.classify value) with
  | .known value => return value
  | .arrayOf id => do
      let (_, type) ← call (Call.objectType id)
      let signature ← call (Call.typeSignature type)
      let array ← ofExcept (ArrayHandle.ofSignature id signature)
      return .array array

/-- The remote values of wire values. -/
def classifiedAll : List Wire.Value → Errand (List RemoteValue)
  | [] => return []
  | value :: rest => do
      let first ← classified value
      let later ← classifiedAll rest
      return first :: later

/-- The first of several values. -/
def firstOf (what : String) : List RemoteValue → Errand RemoteValue
  | [] => fail (.protocol s!"empty reply to {what}")
  | value :: _ => return value

/-- A number as a signed word of the wire. -/
def wireInt (what : String) (value : Nat) : Errand Int32 :=
  if (value : Int) ≤ Int32.maxValue.toInt then return Int32.ofNat value
  else fail (.protocol s!"{what} {value} does not fit a JDWP int")

/-- The slots to read, or the error of the first one that does not fit. -/
def wireSlots : List LocalSlot → Except ClientError (List VariableSlot)
  | [] => .ok []
  | slot :: rest => do
      let first ← VariableSlot.of slot.slot slot.signature
      let later ← wireSlots rest
      return first :: later

/-- The type that has the members of a value; those of an array are in the root class. -/
def memberHolder (value : RemoteValue) : Errand TypeHandle :=
  match value with
  | .object handle => do
      let (tag, type) ← call (Call.objectType handle.id)
      return ⟨type, tag⟩
  | .array _ => typeOfSignature Signature.objectClass
  | .null => fail .nullReceiver
  | _ => fail (.typeMismatch s!"{value.typeName} has no members")

/-- The signature of the runtime type of a value. -/
def runtimeSignature (value : RemoteValue) : Errand String :=
  match value with
  | .array handle => return handle.signature
  | .object handle => do
      let (tag, type) ← call (Call.objectType handle.id)
      return (← metadata ⟨type, tag⟩).signature
  | .null => fail .nullReceiver
  | _ => fail (.typeMismatch s!"{value.typeName} has no runtime class")

/-- The signatures of types. -/
def signatures : List TypeHandle → Errand (List String)
  | [] => return []
  | type :: rest => do
      let declared ← metadata type
      let later ← signatures rest
      return declared.signature :: later

/-- The signatures of the superclass and the interfaces of a type. -/
def supertypes (signature : String) : Errand (List String) := do
  let declared ← metadata (← typeOfSignature signature)
  signatures (declared.superclass.toList.map .ofClass ++ declared.interfaces.map .ofInterface)

/-- The frame of a thread at a depth. -/
def frame (thread : ThreadId) (depth : Nat) : Errand FrameInfo := do
  let first ← wireInt "frame depth" depth
  match ← call (Call.frames thread first 1) with
  | [] => fail (.staleFrame s!"thread {Text.hex thread.toNat} has no frame {depth}")
  | found :: _ => return found

/-- The variables of a method; without debugging information there are none. -/
def variableTable (location : Location) : Errand (List Variable) := do
  match ← attempt (Call.variableTable location.classId location.methodId) with
  | .ok table => return table
  | .error error =>
      if error.code? = some ErrorCode.absentInformation then return []
      else fail error.toEvalError

/-- The object that a field is read from or written to. -/
def fieldOwner (receiver : Option RemoteValue) : Errand ObjectId :=
  match receiver.bind RemoteValue.objectId? with
  | some object => return object
  | none => fail .nullReceiver

def getField (receiver : Option RemoteValue) (field : FieldRef) : Errand RemoteValue := do
  let values ←
    if field.isStatic then call (Call.staticValues field.declaringType [field.id])
    else do call (Call.objectValues (← fieldOwner receiver) [field.id])
  firstOf "GetValues" (← classifiedAll values)

def setField (receiver : Option RemoteValue) (field : FieldRef) (value : RemoteValue) :
    Errand Unit := do
  let values := [(field.id, value.toWire)]
  if field.isStatic then call (Call.setStaticValues field.declaringType values)
  else call (Call.setObjectValues (← fieldOwner receiver) values)

/-- A constructor of a class; those of superclasses do not count. -/
def constructor (className : String) (selector : MethodSelector) : Errand MethodRef := do
  let type ← typeOfSignature className
  let declared ← metadata type
  match ← orAbort (declared.constructor? selector) with
  | some method => return .of type.id method
  | none =>
      let holder := Signature.typeName className
      fail (.noSuchMethod s!"constructor {selector.display} in {holder}")

/-- How an invocation ended; the value is looked at only when nothing was thrown. -/
def outcome (reply : InvocationReply) : Errand InvokeOutcome := do
  if reply.threw then return .threw (.plain reply.exception)
  else return .returned (← classified reply.value)

/-- Invoke a method on a receiver, or a static one without. -/
def invoke (usage : Usage) (thread : ThreadId) (receiver : Option RemoteValue)
    (method : MethodRef) (arguments : List RemoteValue) : Errand InvokeOutcome := do
  let arguments := arguments.map RemoteValue.toWire
  let reply ← invoking thread
    (match receiver with
    | none =>
        call (Call.invokeStatic method.declaringType thread method.id arguments usage.options)
    | some receiver =>
        match receiver.objectId? with
        | none => fail (.typeMismatch s!"cannot invoke {method.name} on {receiver.typeName}")
        | some object =>
            call (Call.invokeMethod object thread method.declaringType method.id arguments
              usage.options))
  outcome reply

/-- Make an object with a constructor. -/
def newInstance (usage : Usage) (thread : ThreadId) (constructor : MethodRef)
    (arguments : List RemoteValue) : Errand InvokeOutcome := do
  let reply ← invoking thread
    (call (Call.newInstance constructor.declaringType thread constructor.id
      (arguments.map RemoteValue.toWire) usage.options))
  outcome reply

/-- Make an array of a given array type. -/
def newArray (signature : String) (length : Int32) : Errand RemoteValue := do
  let type ← typeOfSignature signature
  let id ← call (Call.newArray type.id length)
  return .array (← ofExcept (ArrayHandle.ofSignature id signature))

end Errand

open Errand in
/-- What is asked of the link to answer an operation. -/
def answer (usage : Usage) : (operation : Operation) → Errand operation.Answer
  | .frame thread depth => frame thread depth
  | .variableTable location => variableTable location
  | .thisObject thread frame => do
      let (tag, id) ← call (Call.receiver thread frame)
      classified ⟨tag, .object id⟩
  | .frameValues thread frame slots => do
      match wireSlots slots with
      | .error error => fail error.toEvalError
      | .ok slots => classifiedAll (← call (Call.frameValues thread frame slots))
  | .setFrameValue thread frame slot value => do
      let index ← wireInt "slot" slot.slot.toNat
      call (Call.setFrameValues thread frame [(index, value.toWire)])
  | .createString text => do
      return .object (.string (← call (Call.createString text)))
  | .stringValue string => call (Call.stringValue string.id)
  | .typeSignature value => runtimeSignature value
  | .supertypes signature => supertypes signature
  | .arrayLength array => call (Call.arrayLength array.id)
  | .arrayGet array index => do
      let values ← call (Call.arrayValues array.id index 1)
      firstOf "ArrayReference.GetValues" (← classifiedAll values)
  | .arraySet array index value => call (Call.setArrayValues array.id index [value.toWire])
  | .newArray signature length => newArray signature length
  | .instanceField receiver name => do
      findField usage.searchLimit (← memberHolder receiver) name none
  | .staticField className name => do
      findField usage.searchLimit (← typeOfSignature className) name (some true)
  | .getField receiver field => getField receiver field
  | .setField receiver field value => setField receiver field value
  | .instanceMethod receiver selector => do
      findMethod usage.searchLimit (← memberHolder receiver) selector false
  | .staticMethod className selector => do
      findMethod usage.searchLimit (← typeOfSignature className) selector true
  | .constructor className selector => constructor className selector
  | .invoke thread receiver method arguments => invoke usage thread receiver method arguments
  | .newInstance thread constructor arguments => newInstance usage thread constructor arguments

/-- The text of id sizes in an error message. -/
def sizesText (sizes : IdSizes) : String :=
  let fields := [
    ("field_id_size", sizes.field), ("method_id_size", sizes.method),
    ("object_id_size", sizes.object), ("reference_type_id_size", sizes.referenceType),
    ("frame_id_size", sizes.frame)]
  let texts := fields.map fun entry => entry.1 ++ ": " ++ toString entry.2.toInt
  "VmIdSizes \x7b " ++ String.intercalate ", " texts ++ " \x7d"

/-- Check a target before it is used: every id must have eight bytes. -/
def attach : Errand Unit := do
  let _ ← Errand.call Call.version
  let sizes ← Errand.call Call.idSizes
  if sizes.allEightBytes then return
  else Errand.fail (.protocol ("unsupported id sizes: " ++ sizesText sizes))

end FrameEval.Remote
