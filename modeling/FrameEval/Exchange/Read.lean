import FrameEval.Instruction.Json
import FrameEval.Json.Decode
import FrameEval.Remote.Operation
import FrameEval.SymbolTable
import FrameEval.Text.Numeral
import FrameEval.Wire.Bytes

/-!
# Reading descriptions

The JSON form in which values, members and positions of a target are described.  Ids are
numbers, decimal or hexadecimal texts; floating-point values are numbers or bit patterns;
bytes are hexadecimal texts.  A value may also be named, if names are given.
-/

namespace FrameEval.Exchange

/-- The values that a description may name. -/
abbrev Names := Table String RemoteValue

namespace Read

variable {α : Type}

/-- A member that must be there. -/
def field (json : Json) (name : String) : Option Json :=
  json.member? name

/-- Whether a member is there and true. -/
def flag (json : Json) (name : String) : Bool :=
  match json.member? name with
  | some (.bool true) => true
  | _ => false

def text (json : Json) : Option String := json.string?

def list (read : Json → Option α) (json : Json) : Option (List α) := do
  (← json.items?).mapM read

/-- A list that stands for the empty one when it is absent. -/
def listOr (read : Json → Option α) (json : Option Json) : Option (List α) :=
  match json with
  | none => some []
  | some json => list read json

/-- What may be absent or null. -/
def optional (read : Json → Option α) (json : Option Json) : Option (Option α) :=
  match json with
  | none => some none
  | some .null => some none
  | some value => (read value).map some

/-- An id. -/
def word (json : Json) : Option UInt64 :=
  match json with
  | .string text =>
      match text.toList with
      | '0' :: 'x' :: digits => Text.readWord? 16 digits
      | digits => Text.readWord? 10 digits
  | _ => json.natural?

/-- An integer. -/
def integer (json : Json) : Option Int :=
  match json with
  | .string text =>
      match text.toList with
      | '-' :: digits => (Text.readNumeral? 10 digits).map fun value => -(value : Int)
      | digits => (Text.readNumeral? 10 digits).map fun value => (value : Int)
  | _ => json.integer?

/-- An integer that is not negative. -/
def nat (json : Json) : Option Nat := do
  let value ← integer json
  if value < 0 then none else some value.toNat

def uint8 (json : Json) : Option UInt8 := (nat json).map UInt8.ofNat

def uint32 (json : Json) : Option UInt32 := (nat json).map UInt32.ofNat

def int32 (json : Json) : Option Int32 := (integer json).map Int32.ofInt

/-- Bytes from pairs of digits. -/
def byteDigits : List Char → Option Wire.Bytes
  | [] => some []
  | high :: low :: rest => do
      let high ← Text.digitValue? 16 high
      let low ← Text.digitValue? 16 low
      return UInt8.ofNat (high * 16 + low) :: (← byteDigits rest)
  | _ => none

def bytes (json : Json) : Option Wire.Bytes := do
  byteDigits (← json.string?).toList

/-- A bit pattern. -/
def pattern (text : String) : Option Nat :=
  match text.toList with
  | '0' :: 'x' :: digits => Text.readNumeral? 16 digits
  | _ => none

def double (json : Json) : Option Double :=
  match json with
  | .string "nan" => some (.ofWord 0x7ff8000000000000)
  | .string text => (pattern text).map Double.ofWord
  | _ => json.double?

/-- A single; a number is rounded to a double first. -/
def single (json : Json) : Option Single :=
  match json with
  | .string "nan" => some (.ofWord 0x7fc00000)
  | .string text => (pattern text).map Single.ofWord
  | _ => json.double?.map Double.toSingle

/-- A primitive of a named kind. -/
def primitiveOf (name : String) (content : Json) : Option Primitive := do
  match ← PrimitiveKind.ofName? name with
  | .boolean => return .boolean (← content.bool?)
  | .byte => return .byte (Int8.ofInt (← integer content))
  | .char => return .char (UInt16.ofNat (← nat content))
  | .short => return .short (Int16.ofInt (← integer content))
  | .int => return .int (Int32.ofInt (← integer content))
  | .long => return .long (Int64.ofInt (← integer content))
  | .float => return .float (← single content)
  | .double => return .double (← double content)

def primitive (json : Json) : Option Primitive :=
  match json with
  | .object [(name, content)] => primitiveOf name content
  | _ => none

def kind (json : Json) : Option PrimitiveKind := do
  PrimitiveKind.ofName? (← json.string?)

/-- A tag: one character or a number. -/
def tag (json : Json) : Option UInt8 :=
  match json with
  | .string text =>
      match text.toList with
      | [letter] => some (UInt8.ofNat letter.toNat)
      | _ => none
  | _ => uint8 json

/-- A value, which may be named. -/
def value (names : Names) (json : Json) : Option RemoteValue :=
  match json with
  | .string "null" => some .null
  | .string "void" => some .void
  | .object members =>
      match json.member? "ref", json.member? "object", json.member? "array" with
      | some name, _, _ => do names.find? (← name.string?)
      | none, some id, _ => do
          let tag ← optional tag (json.member? "tag")
          return .object ⟨← word id, tag.getD Wire.ObjectKind.object.tag⟩
      | none, none, some id => do
          let signature ← text (← field json "sig")
          (ArrayHandle.ofSignature (← word id) signature).toOption.map .array
      | none, none, none =>
          match members with
          | [(name, content)] => (primitiveOf name content).map .primitive
          | _ => none
  | _ => none

/-- A wire value; its tag and its data need not agree. -/
def wireValue (json : Json) : Option Wire.Value :=
  match json with
  | .object members => do
      let tag ← tag (← field json "tag")
      match members.filter fun entry => entry.1 ≠ "tag" with
      | [("object", id)] => return ⟨tag, .object (← word id)⟩
      | [("void", _)] => return ⟨tag, .void⟩
      | [(name, content)] => return ⟨tag, .ofPrimitive (← primitiveOf name content)⟩
      | _ => none
  | _ => none

/-- A location as a structure or as a list of its fields. -/
def location (json : Json) : Option Wire.Location := do
  let [some typeTag, some classId, some methodId, some index] ←
    json.fields? ["type_tag", "class_id", "method_id", "index"] | none
  return ⟨← uint8 typeTag, ← word classId, ← word methodId, ← word index⟩

def selector (json : Json) : Option MethodSelector := do
  return {
    name := ← text (← field json "name")
    signature := ← optional text (json.member? "signature")
    arity := ← nat (← field json "arity") }

def localSlot (json : Json) : Option LocalSlot := do
  let [slot, signature] ← json.items? | none
  return ⟨← uint32 slot, ← text signature⟩

def tableEntry (json : Json) : Option Wire.Variable := do
  let [codeIndex, name, signature, length, slot] ← json.items? | none
  return ⟨← word codeIndex, ← text name, ← text signature, ← uint32 length, ← uint32 slot⟩

/-- A named slot, as it stands in a symbol table. -/
def symbol (json : Json) : Option (String × LocalSlot) := do
  let [name, slot, signature] ← json.items? | none
  return (← text name, ⟨← uint32 slot, ← text signature⟩)

def fieldRef (json : Json) : Option FieldRef := do
  return ⟨← word (← field json "type"), ← word (← field json "id"), ← text (← field json "name"),
    ← text (← field json "sig"), flag json "static"⟩

def methodRef (json : Json) : Option MethodRef := do
  return ⟨← word (← field json "type"), ← word (← field json "id"), ← text (← field json "name"),
    ← text (← field json "sig"), flag json "static"⟩

/-- An operation: its name under `call`, and its arguments. -/
def operation (names : Names) (json : Json) : Option Operation := do
  let item (name : String) : Option RemoteValue := do value names (← field json name)
  let id (name : String) : Option UInt64 := do word (← field json name)
  let string (name : String) : Option String := do text (← field json name)
  let array : Option ArrayHandle := do
    let .array handle ← item "array" | none
    return handle
  let arguments : Option (List RemoteValue) := listOr (value names) (json.member? "args")
  let receiver : Option (Option RemoteValue) :=
    match json.member? "of" with
    | none => some none
    | some receiver => (value names receiver).map some
  let selector : Option MethodSelector := do selector (← field json "selector")
  match ← string "call" with
  | "frame" => return .frame (← id "thread") (← nat (← field json "depth"))
  | "variable_table" => return .variableTable ⟨1, ← id "class", ← id "method", 0⟩
  | "this_object" => return .thisObject (← id "thread") (← id "frame")
  | "frame_values" =>
      return .frameValues (← id "thread") (← id "frame") (← list localSlot (← field json "slots"))
  | "set_frame_value" =>
      return .setFrameValue (← id "thread") (← id "frame") (← localSlot (← field json "slot"))
        (← item "value")
  | "create_string" => return .createString (← string "text")
  | "string_value" => do
      let .object handle ← item "value" | none
      return .stringValue handle
  | "type_signature" => return .typeSignature (← item "value")
  | "supertypes" => return .supertypes (← string "sig")
  | "array_length" => return .arrayLength (← array)
  | "array_get" => return .arrayGet (← array) (← int32 (← field json "index"))
  | "array_set" => return .arraySet (← array) (← int32 (← field json "index")) (← item "value")
  | "new_array" => return .newArray (← string "sig") (← int32 (← field json "length"))
  | "instance_field" => return .instanceField (← item "of") (← string "name")
  | "static_field" => return .staticField (← string "class") (← string "name")
  | "get_field" => return .getField (← receiver) (← fieldRef (← field json "field"))
  | "set_field" =>
      return .setField (← receiver) (← fieldRef (← field json "field")) (← item "value")
  | "instance_method" => return .instanceMethod (← item "of") (← selector)
  | "static_method" => return .staticMethod (← string "class") (← selector)
  | "constructor" => return .constructor (← string "class") (← selector)
  | "invoke" =>
      return .invoke (← id "thread") (← receiver) (← methodRef (← field json "method"))
        (← arguments)
  | "new_instance" =>
      return .newInstance (← id "thread") (← methodRef (← field json "method")) (← arguments)
  | _ => none

mutual

/-- Put the wire form of a named value in the place of each reference to it. -/
def resolve (names : Names) (json : Json) : Json :=
  match json with
  | .object [("ref", .string name)] =>
      match names.find? name with
      | some value => value.toJson
      | none => json
  | .object members => .object (resolveMembers names members)
  | .array items => .array (resolveItems names items)
  | other => other

/-- Resolve the references in the items of an array. -/
def resolveItems (names : Names) : List Json → List Json
  | [] => []
  | item :: rest => resolve names item :: resolveItems names rest

/-- Resolve the references in the members of an object. -/
def resolveMembers (names : Names) : List (String × Json) → List (String × Json)
  | [] => []
  | (name, value) :: rest => (name, resolve names value) :: resolveMembers names rest

end

/-- A program in which values may be named. -/
def program (names : Names) (json : Json) : Option Program :=
  Program.ofJson? (resolve names json)

end Read

end FrameEval.Exchange
