import FrameEval.Evaluation.Basic
import FrameEval.Instruction.Json
import FrameEval.Wire.Event

/-!
# Writing reports

The JSON form in which results are reported.  Ids are hexadecimal texts, long integers
decimal texts, floating-point values bit patterns, bytes hexadecimal texts.
-/

namespace FrameEval.Exchange.Write

variable {α : Type}

def object (members : List (String × Json)) : Json := Json.ofMembers members

def text (text : String) : Json := .string text

def bool (value : Bool) : Json := .bool value

def integer (value : Int) : Json := Json.ofInt64 (Int64.ofInt value)

def nat (value : Nat) : Json := Json.ofNat value

/-- An id. -/
def word (value : UInt64) : Json := .string ("0x" ++ Text.hex value.toNat)

/-- An integer of 64 bits. -/
def long (value : Int) : Json := .string (toString value)

/-- A number in base sixteen with so many digits. -/
def hexDigits (count value : Nat) : String :=
  let digits := Nat.toDigits 16 value
  String.ofList (List.replicate (count - digits.length) '0' ++ digits)

def hexText (bytes : Wire.Bytes) : String :=
  String.join (bytes.map fun byte => hexDigits 2 byte.toNat)

def bytes (bytes : Wire.Bytes) : Json := .string (hexText bytes)

def single (value : Single) : Json :=
  if value.isNaN then .string "nan" else .string ("0x" ++ hexDigits 8 value.word)

def double (value : Double) : Json :=
  if value.isNaN then .string "nan" else .string ("0x" ++ hexDigits 16 value.word)

def optional (write : α → Json) : Option α → Json
  | some value => write value
  | none => .null

def list (write : α → Json) (items : List α) : Json := .array (items.map write)

/-! ## Values -/

def primitiveContent : Primitive → Json
  | .boolean value => .bool value
  | .byte value => integer value.toInt
  | .char value => nat value.toNat
  | .short value => integer value.toInt
  | .int value => integer value.toInt
  | .long value => long value.toInt
  | .float value => single value
  | .double value => double value

def primitive (value : Primitive) : Json :=
  .object [(value.kind.name, primitiveContent value)]

def kind (kind : PrimitiveKind) : Json :=
  object [("name", text kind.name), ("tag", nat kind.tag.toNat),
    ("integral", .bool kind.isIntegral)]

/-- A tag: its character if it has a visible one, else its number. -/
def tag (tag : UInt8) : Json :=
  if 0x20 < tag.toNat ∧ tag.toNat < 0x7f then .string (String.singleton (Char.ofNat tag.toNat))
  else nat tag.toNat

def value : RemoteValue → Json
  | .primitive value => primitive value
  | .object handle => object [("object", word handle.id), ("tag", tag handle.tag)]
  | .array handle => object [("array", word handle.id), ("sig", text handle.signature)]
  | .null => text "null"
  | .void => text "void"

def wireValue (value : Wire.Value) : Json :=
  let held (value : Primitive) := (value.kind.name, primitiveContent value)
  let data :=
    match value.data with
    | .object id => ("object", word id)
    | .void => ("void", .bool true)
    | .byte value => held (.byte value)
    | .char value => held (.char value)
    | .float value => held (.float value)
    | .double value => held (.double value)
    | .int value => held (.int value)
    | .long value => held (.long value)
    | .short value => held (.short value)
    | .boolean value => held (.boolean value)
  object [("tag", tag value.tag), data]

def elementType : ElementType → Json
  | .primitive kind => object [("primitive", text kind.name)]
  | .reference signature => object [("reference", text signature)]

def location (location : Wire.Location) : Json :=
  object [("type_tag", nat location.typeTag.toNat), ("class_id", word location.classId),
    ("method_id", word location.methodId), ("index", word location.index)]

/-- An object id under the tag byte that came with it. -/
def taggedId (tag : UInt8) (id : UInt64) : Json :=
  object [("tag", nat tag.toNat), ("id", word id)]

/-! ## Members and frames -/

def localSlot (slot : LocalSlot) : Json :=
  object [("slot", nat slot.slot.toNat), ("sig", text slot.signature)]

def tableEntry (entry : Wire.Variable) : Json :=
  object [("index", word entry.codeIndex), ("name", text entry.name),
    ("sig", text entry.signature), ("length", nat entry.length.toNat),
    ("slot", nat entry.slot.toNat)]

def frame (frame : Wire.FrameInfo) : Json :=
  object [("id", word frame.id), ("at", location frame.location)]

def fieldRef (found : FieldRef) : Json :=
  object [("type", word found.declaringType), ("id", word found.id), ("name", text found.name),
    ("sig", text found.signature), ("static", .bool found.isStatic)]

def methodRef (found : MethodRef) : Json :=
  object [("type", word found.declaringType), ("id", word found.id), ("name", text found.name),
    ("sig", text found.signature), ("static", .bool found.isStatic)]

def outcome : InvokeOutcome → Json
  | .returned result => object [("returned", value result)]
  | .threw exception => object [("threw", word exception.id)]

/-- A primitive literal is written as a value; every other instruction has its own form. -/
def instruction : Instruction → Json
  | .pushLiteral (.primitive value) =>
      object [("push_literal", object [("primitive", primitive value)])]
  | other => other.toJson

/-! ## Events -/

def occurrence (occurrence : Wire.Occurrence) : Json :=
  let ofThread (name : String) (thread : Wire.ThreadId) (rest : List (String × Json)) : Json :=
    object ([("type", text name), ("thread", word thread)] ++ rest)
  match occurrence with
  | .vmStart thread => ofThread "VMStart" thread []
  | .vmDeath => object [("type", text "VMDeath")]
  | .threadStart thread => ofThread "ThreadStart" thread []
  | .threadDeath thread => ofThread "ThreadDeath" thread []
  | .classPrepare thread type signature status =>
      ofThread "ClassPrepare" thread [("ref_type", word type), ("signature", text signature),
        ("status", integer status.toInt)]
  | .breakpoint thread at_ => ofThread "Breakpoint" thread [("location", location at_)]
  | .step thread at_ => ofThread "Step" thread [("location", location at_)]
  | .exception thread at_ exception caughtAt =>
      ofThread "Exception" thread [("location", location at_), ("exception", word exception),
        ("catch_location", optional location caughtAt)]
  | .methodEntry thread at_ => ofThread "MethodEntry" thread [("location", location at_)]
  | .methodExit thread at_ => ofThread "MethodExit" thread [("location", location at_)]
  | .unknown kind => object [("type", text "Unknown"), ("kind", nat kind.toNat)]

def event (event : Wire.Event) : Json :=
  object [("kind", nat event.kind.toNat), ("request_id", integer event.requestId.toInt),
    ("details", occurrence event.details)]

def eventSet (set : Wire.EventSet) : Json :=
  object [("suspend_policy", text set.policy.name), ("events", list event set.events),
    ("threads", list word set.threads)]

/-! ## Errors and results -/

def evalErrorName : EvalError → String
  | .stackUnderflow => "StackUnderflow"
  | .malformedResult _ => "MalformedResult"
  | .malformedSequence _ => "MalformedSequence"
  | .nullReceiver => "NullReceiver"
  | .nullArrayReference => "NullArrayReference"
  | .indexOutOfRange _ _ => "IndexOutOfRange"
  | .notAnArray _ => "NotAnArray"
  | .negativeArraySize _ => "NegativeArraySize"
  | .typeMismatch _ => "TypeMismatch"
  | .illegalCast _ _ => "IllegalCast"
  | .divideByZero => "DivideByZero"
  | .noSuchField _ => "NoSuchField"
  | .noSuchMethod _ => "NoSuchMethod"
  | .noSuchClass _ => "NoSuchClass"
  | .noSuchVariable _ => "NoSuchVariable"
  | .remoteException _ _ => "RemoteException"
  | .disconnected => "Disconnected"
  | .timeout _ => "Timeout"
  | .staleHandle => "StaleHandle"
  | .staleFrame _ => "StaleFrame"
  | .protocol _ => "Protocol"
  | .cancelled => "Cancelled"

def errorKindName : ErrorKind → String
  | .stackDiscipline => "stack_discipline"
  | .valueSemantics => "value_semantics"
  | .remote => "remote"
  | .control => "control"

def evalError (error : EvalError) : Json :=
  let exception :=
    match error with
    | .remoteException _ id => [("exception", word id)]
    | _ => []
  object ([("error", text (evalErrorName error)), ("message", text error.message),
    ("kind", text (errorKindName error.kind)), ("internal", .bool error.isInternal),
    ("loss", .bool error.isConnectionLoss)] ++ exception)

def clientErrorName : Wire.ClientError → String
  | .io _ => "Io"
  | .protocol _ => "Protocol"
  | .invalidHandshake => "InvalidHandshake"
  | .refused _ => "JdwpErrorCode"
  | .connectionClosed => "ConnectionClosed"
  | .timeout _ => "Timeout"

def clientError (error : Wire.ClientError) : Json :=
  object [("error", text (clientErrorName error)), ("message", text error.message),
    ("code", optional (fun code => nat code.toNat) error.code?)]

/-- A result. -/
def ok (json : Json) : Json := .object [("ok", json)]

/-- The result of what returns nothing. -/
def unit : Unit → Json := fun _ => text "unit"

def eval (write : α → Json) : Except EvalError α → Json
  | .ok value => ok (write value)
  | .error error => evalError error

def client (write : α → Json) : Except Wire.ClientError α → Json
  | .ok value => ok (write value)
  | .error error => clientError error

/-- The result of an evaluation; one that reached a limit or broke off says so. -/
def halted (write : α → Json) : Except Halt α → Json
  | .ok value => ok (write value)
  | .error (.failed error) => evalError error
  | .error .exhausted => object [("error", text "Exhausted")]
  | .error .aborted => object [("error", text "panic")]

/-- The answer to an operation. -/
def answer : (operation : Operation) → operation.Answer → Json
  | .frame _ _, found => frame found
  | .variableTable _, table => list tableEntry table
  | .thisObject _ _, result => value result
  | .frameValues _ _ _, values => list value values
  | .setFrameValue _ _ _ _, result => unit result
  | .createString _, result => value result
  | .stringValue _, result => text result
  | .typeSignature _, signature => text signature
  | .supertypes _, signatures => list text signatures
  | .arrayLength _, length => integer length.toInt
  | .arrayGet _ _, result => value result
  | .arraySet _ _ _, result => unit result
  | .newArray _ _, result => value result
  | .instanceField _ _, found => fieldRef found
  | .staticField _ _, found => fieldRef found
  | .getField _ _, result => value result
  | .setField _ _ _, result => unit result
  | .instanceMethod _ _, found => methodRef found
  | .staticMethod _ _, found => methodRef found
  | .constructor _ _, found => methodRef found
  | .invoke _ _ _ _, result => outcome result
  | .newInstance _ _ _, result => outcome result

/-- The value that an outcome leaves, thrown or returned. -/
def outcomeValue : InvokeOutcome → RemoteValue
  | .returned value => value
  | .threw exception => .object exception

/-- The value that an answer holds, if it holds one. -/
def answeredValue? : (operation : Operation) → operation.Answer → Option RemoteValue
  | .thisObject _ _, value => some value
  | .createString _, value => some value
  | .arrayGet _ _, value => some value
  | .newArray _ _, value => some value
  | .getField _ _, value => some value
  | .invoke _ _ _ _, outcome => some (outcomeValue outcome)
  | .newInstance _ _ _, outcome => some (outcomeValue outcome)
  | _, _ => none

end FrameEval.Exchange.Write
