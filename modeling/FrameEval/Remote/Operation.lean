import FrameEval.Member
import FrameEval.RemoteValue.Basic
import FrameEval.SymbolTable

/-!
# Operations of a target

The questions that an evaluation asks of a target, each with the type of its answer.  Most
of them only read; seven change something, and of these `invoke` and `newInstance` let the
target run code.
-/

namespace FrameEval

open Wire

/-- How an invocation ended. -/
inductive InvokeOutcome where
  | returned (value : RemoteValue)
  | threw (exception : ObjectHandle)
  deriving DecidableEq

/-- A question to the target. -/
inductive Operation where
  | frame (thread : ThreadId) (depth : Nat)
  | variableTable (location : Location)
  /-- The receiver of a frame; null in a static one. -/
  | thisObject (thread : ThreadId) (frame : FrameId)
  | frameValues (thread : ThreadId) (frame : FrameId) (slots : List LocalSlot)
  | setFrameValue (thread : ThreadId) (frame : FrameId) (slot : LocalSlot) (value : RemoteValue)
  | createString (text : String)
  | stringValue (string : ObjectHandle)
  /-- The signature of the runtime type of a value. -/
  | typeSignature (value : RemoteValue)
  /-- The direct superclass and the direct interfaces of a type. -/
  | supertypes (signature : String)
  | arrayLength (array : ArrayHandle)
  | arrayGet (array : ArrayHandle) (index : Int32)
  | arraySet (array : ArrayHandle) (index : Int32) (value : RemoteValue)
  | newArray (signature : String) (length : Int32)
  | instanceField (receiver : RemoteValue) (name : String)
  | staticField (className name : String)
  /-- A static field has no receiver. -/
  | getField (receiver : Option RemoteValue) (field : FieldRef)
  | setField (receiver : Option RemoteValue) (field : FieldRef) (value : RemoteValue)
  | instanceMethod (receiver : RemoteValue) (selector : MethodSelector)
  | staticMethod (className : String) (selector : MethodSelector)
  | constructor (className : String) (selector : MethodSelector)
  | invoke (thread : ThreadId) (receiver : Option RemoteValue) (method : MethodRef)
      (arguments : List RemoteValue)
  | newInstance (thread : ThreadId) (constructor : MethodRef) (arguments : List RemoteValue)
  deriving DecidableEq

namespace Operation

/-- What the target answers when it does not fail. -/
@[reducible]
def Answer : Operation → Type
  | frame _ _ => FrameInfo
  | variableTable _ => List Variable
  | thisObject _ _ => RemoteValue
  | frameValues _ _ _ => List RemoteValue
  | setFrameValue _ _ _ _ => Unit
  | createString _ => RemoteValue
  | stringValue _ => String
  | typeSignature _ => String
  | supertypes _ => List String
  | arrayLength _ => Int32
  | arrayGet _ _ => RemoteValue
  | arraySet _ _ _ => Unit
  | newArray _ _ => RemoteValue
  | instanceField _ _ => FieldRef
  | staticField _ _ => FieldRef
  | getField _ _ => RemoteValue
  | setField _ _ _ => Unit
  | instanceMethod _ _ => MethodRef
  | staticMethod _ _ => MethodRef
  | constructor _ _ => MethodRef
  | invoke _ _ _ _ => InvokeOutcome
  | newInstance _ _ _ => InvokeOutcome

/-- How an operation is written in a log. -/
def label : Operation → String
  | frame _ depth => s!"frame {depth}"
  | variableTable _ => "variable_table"
  | thisObject _ _ => "this_object"
  | frameValues _ _ _ => "frame_values"
  | setFrameValue _ _ _ _ => "set_frame_value"
  | createString _ => "create_string"
  | stringValue _ => "string_value"
  | typeSignature _ => "type_signature"
  | supertypes signature => s!"supertypes {signature}"
  | arrayLength _ => "array_length"
  | arrayGet _ index => s!"array_get {index.toInt}"
  | arraySet _ index _ => s!"array_set {index.toInt}"
  | newArray signature _ => s!"new_array {signature}"
  | instanceField _ name => s!"instance_field {name}"
  | staticField _ name => s!"static_field {name}"
  | getField _ field => s!"get_field {field.name}"
  | setField _ field _ => s!"set_field {field.name}"
  | instanceMethod _ selector => s!"instance_method {selector.name}"
  | staticMethod _ selector => s!"static_method {selector.name}"
  | constructor className _ => s!"constructor {className}"
  | invoke _ _ method _ => s!"invoke {method.name}"
  | newInstance _ _ _ => "new_instance"

/-- Whether an operation changes the target. -/
def isMutating : Operation → Bool
  | setFrameValue _ _ _ _ => true
  | createString _ => true
  | arraySet _ _ _ => true
  | newArray _ _ => true
  | setField _ _ _ => true
  | invoke _ _ _ _ => true
  | newInstance _ _ _ => true
  | _ => false

/-- Whether an operation lets the target run code. -/
def runsCode : Operation → Bool
  | invoke _ _ _ _ => true
  | newInstance _ _ _ => true
  | _ => false

end Operation

end FrameEval
