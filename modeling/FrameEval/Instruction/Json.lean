import FrameEval.Instruction.Basic
import FrameEval.Json.Decode

/-!
# Programs as JSON

The form in which clients send programs.  An instruction without arguments is a string, any
other one an object of a single member.  Identifiers and long integers are plain numbers.
-/

namespace FrameEval

namespace PrimitiveKind

def ofJson? (json : Json) : Option PrimitiveKind := do
  let (name, content) ← json.variant?
  if Json.isUnit content then ofName? name else none

end PrimitiveKind

namespace Primitive

/-- An object of one member, which is named for the kind. -/
def toJson (value : Primitive) : Json :=
  let content : Json :=
    match value with
    | boolean value => .bool value
    | byte value => .ofInt64 value.toInt64
    | char value => .ofUInt64 value.toUInt64
    | short value => .ofInt64 value.toInt64
    | int value => .ofInt64 value.toInt64
    | long value => .ofInt64 value
    | float value => .ofDouble value.toDouble
    | double value => .ofDouble value
  .object [(value.kind.name, content)]

def ofJson? (json : Json) : Option Primitive := do
  let (name, some content) ← json.variant? | none
  match ← PrimitiveKind.ofName? name with
  | .boolean => return boolean (← content.bool?)
  | .byte =>
      return byte (Int8.ofInt (← content.between? Int8.minValue.toInt Int8.maxValue.toInt))
  | .char => return char (UInt16.ofNat (← content.below? UInt16.size))
  | .short =>
      return short (Int16.ofInt (← content.between? Int16.minValue.toInt Int16.maxValue.toInt))
  | .int =>
      return int (Int32.ofInt (← content.between? Int32.minValue.toInt Int32.maxValue.toInt))
  | .long =>
      return long (Int64.ofInt (← content.between? Int64.minValue.toInt Int64.maxValue.toInt))
  | .float => return float (← content.single?)
  | .double => return double (← content.double?)

end Primitive

namespace ObjectHandle

def toJson (handle : ObjectHandle) : Json :=
  .object [("id", .ofUInt64 handle.id), ("tag", .ofNat handle.tag.toNat)]

/-- A handle; without a tag it is that of a plain object. -/
def ofJson? (json : Json) : Option ObjectHandle := do
  let [some id, tag] ← json.fields? ["id", "tag"] | none
  let id ← id.natural?
  match tag with
  | none => return plain id
  | some tag => return ⟨id, UInt8.ofNat (← tag.below? UInt8.size)⟩

end ObjectHandle

namespace ElementType

def toJson : ElementType → Json
  | primitive kind => .object [("primitive", .string kind.name)]
  | reference signature => .object [("reference", .string signature)]

def ofJson? (json : Json) : Option ElementType := do
  let (name, some content) ← json.variant? | none
  if name = "primitive" then return primitive (← PrimitiveKind.ofJson? content)
  else if name = "reference" then return reference (← content.string?)
  else none

end ElementType

namespace ArrayHandle

def toJson (array : ArrayHandle) : Json :=
  .object [("element", array.element.toJson), ("id", .ofUInt64 array.id)]

def ofJson? (json : Json) : Option ArrayHandle := do
  let [some id, some element] ← json.fields? ["id", "element"] | none
  return ⟨← id.natural?, ← ElementType.ofJson? element⟩

end ArrayHandle

namespace RemoteValue

def toJson : RemoteValue → Json
  | primitive value => .object [("primitive", value.toJson)]
  | object handle => .object [("object", handle.toJson)]
  | array handle => .object [("array", handle.toJson)]
  | null => .string "null"
  | void => .string "void"

def ofJson? (json : Json) : Option RemoteValue := do
  let (name, content) ← json.variant?
  if name = "null" then if Json.isUnit content then return null else none
  else if name = "void" then if Json.isUnit content then return void else none
  else
    let content ← content
    if name = "primitive" then return primitive (← Primitive.ofJson? content)
    else if name = "object" then return object (← ObjectHandle.ofJson? content)
    else if name = "array" then return array (← ArrayHandle.ofJson? content)
    else none

end RemoteValue

namespace MethodSelector

def toJson (selector : MethodSelector) : Json :=
  .object [("arity", .ofNat selector.arity), ("name", .string selector.name),
    ("signature", match selector.signature with
      | some signature => .string signature
      | none => .null)]

def ofJson? (json : Json) : Option MethodSelector := do
  let [some name, signature, some arity] ← json.fields? ["name", "signature", "arity"] | none
  return ⟨← name.string?, ← Json.optionalString? signature, (← arity.natural?).toNat⟩

end MethodSelector

namespace BinaryOp

/-- The names of the operators. -/
def names : List (String × BinaryOp) := [
  ("add", add), ("sub", sub), ("mul", mul), ("div", div), ("rem", rem), ("shl", shl),
  ("shr", shr), ("ushr", ushr), ("and", and), ("or", or), ("xor", xor), ("eq", eq),
  ("ne", ne), ("lt", lt), ("le", le), ("gt", gt), ("ge", ge)]

def name (op : BinaryOp) : String :=
  ((names.find? fun entry => entry.2 = op).map Prod.fst).getD ""

def ofName? (name : String) : Option BinaryOp :=
  (names.find? fun entry => entry.1 = name).map Prod.snd

@[simp]
theorem ofName?_name (op : BinaryOp) : ofName? op.name = some op := by
  cases op <;> decide

def ofJson? (json : Json) : Option BinaryOp := do
  let (name, content) ← json.variant?
  if Json.isUnit content then ofName? name else none

end BinaryOp

namespace UnaryOp

/-- The names of the operators. -/
def names : List (String × UnaryOp) :=
  [("neg", neg), ("plus", plus), ("bit_not", bitNot), ("not", not)]

def name (op : UnaryOp) : String :=
  ((names.find? fun entry => entry.2 = op).map Prod.fst).getD ""

def ofName? (name : String) : Option UnaryOp :=
  (names.find? fun entry => entry.1 = name).map Prod.snd

@[simp]
theorem ofName?_name (op : UnaryOp) : ofName? op.name = some op := by
  cases op <;> decide

def ofJson? (json : Json) : Option UnaryOp := do
  let (name, content) ← json.variant?
  if Json.isUnit content then ofName? name else none

end UnaryOp

namespace Instruction

/-- An instruction as JSON. -/
def toJson : Instruction → Json
  | pushLiteral value => .object [("push_literal", value.toJson)]
  | pushString text => .object [("push_string", .string text)]
  | pushThis => .string "push_this"
  | pushLocal name => .object [("push_local", .string name)]
  | storeLocal name => .object [("store_local", .string name)]
  | declareLocal name => .object [("declare_local", .string name)]
  | loadTemporary slot => .object [("load_temp", .ofNat slot)]
  | storeTemporary slot => .object [("store_temp", .ofNat slot)]
  | pop => .string "pop"
  | dup => .string "dup"
  | arrayLoad => .string "array_load"
  | arrayStore => .string "array_store"
  | arrayLength => .string "array_length"
  | newArray signature => .object [("new_array", .string signature)]
  | fieldGet name => .object [("field_get", .string name)]
  | fieldSet name => .object [("field_set", .string name)]
  | staticFieldGet className name =>
      .object [("static_field_get",
        .object [("class", .string className), ("name", .string name)])]
  | staticFieldSet className name =>
      .object [("static_field_set",
        .object [("class", .string className), ("name", .string name)])]
  | invoke method => .object [("invoke", method.toJson)]
  | invokeStatic className method =>
      .object [("invoke_static",
        .object [("class", .string className), ("method", method.toJson)])]
  | new className constructor =>
      .object [("new",
        .object [("class", .string className), ("constructor", constructor.toJson)])]
  | cast signature => .object [("cast", .string signature)]
  | instanceOf signature => .object [("instance_of", .string signature)]
  | binary op => .object [("binary", .string op.name)]
  | unary op => .object [("unary", .string op.name)]
  | jump target => .object [("jump", .ofNat target)]
  | jumpIfTrue target => .object [("jump_if_true", .ofNat target)]
  | jumpIfFalse target => .object [("jump_if_false", .ofNat target)]

/-- The instructions without arguments. -/
def plain? : String → Option Instruction
  | "push_this" => some pushThis
  | "pop" => some pop
  | "dup" => some dup
  | "array_load" => some arrayLoad
  | "array_store" => some arrayStore
  | "array_length" => some arrayLength
  | _ => none

/-- An instruction with one argument of its own. -/
def withArgument? (name : String) (content : Json) : Option Instruction :=
  match name with
  | "push_literal" => (RemoteValue.ofJson? content).map pushLiteral
  | "push_string" => content.string?.map pushString
  | "push_local" => content.string?.map pushLocal
  | "store_local" => content.string?.map storeLocal
  | "declare_local" => content.string?.map declareLocal
  | "load_temp" => content.natural?.map fun slot => loadTemporary slot.toNat
  | "store_temp" => content.natural?.map fun slot => storeTemporary slot.toNat
  | "new_array" => content.string?.map newArray
  | "field_get" => content.string?.map fieldGet
  | "field_set" => content.string?.map fieldSet
  | "invoke" => (MethodSelector.ofJson? content).map invoke
  | "cast" => content.string?.map cast
  | "instance_of" => content.string?.map instanceOf
  | "binary" => (BinaryOp.ofJson? content).map binary
  | "unary" => (UnaryOp.ofJson? content).map unary
  | "jump" => content.natural?.map fun target => jump target.toNat
  | "jump_if_true" => content.natural?.map fun target => jumpIfTrue target.toNat
  | "jump_if_false" => content.natural?.map fun target => jumpIfFalse target.toNat
  | _ => none

/-- An instruction with named arguments, of which the class name is one. -/
def withMembers? (name : String) (content : Json) : Option Instruction := do
  let className ← (← content.member? "class").string?
  match name with
  | "static_field_get" => return staticFieldGet className (← (← content.member? "name").string?)
  | "static_field_set" => return staticFieldSet className (← (← content.member? "name").string?)
  | "invoke_static" =>
      return invokeStatic className (← MethodSelector.ofJson? (← content.member? "method"))
  | "new" => return new className (← MethodSelector.ofJson? (← content.member? "constructor"))
  | _ => none

/-- The instruction that a JSON value stands for. -/
def ofJson? (json : Json) : Option Instruction := do
  let (name, content) ← json.variant?
  match plain? name with
  | some instruction => if Json.isUnit content then return instruction else none
  | none => do
      let content ← content
      withArgument? name content <|> withMembers? name content

end Instruction

namespace Program

/-- A program as JSON. -/
def toJson (program : Program) : Json :=
  .array (program.map Instruction.toJson)

/-- The program that a JSON array stands for. -/
def ofJson? (json : Json) : Option Program := do
  (← json.items?).mapM Instruction.ofJson?

end Program

end FrameEval
