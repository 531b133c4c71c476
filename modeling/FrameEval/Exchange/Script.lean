import FrameEval.Exchange.Read
import FrameEval.World.Script

/-!
# Scripts as JSON

The JSON form of the acts that build a world.  The body of a method holds acts itself, so
the reading follows the height of the JSON value.
-/

namespace FrameEval

namespace Json

mutual

/-- The height of a value: how deep arrays and objects are nested in it. -/
def height : Json → Nat
  | array items => itemsHeight items + 1
  | object members => membersHeight members + 1
  | _ => 1

/-- The height of the highest item. -/
def itemsHeight : List Json → Nat
  | [] => 0
  | item :: rest => max item.height (itemsHeight rest)

/-- The height of the highest member. -/
def membersHeight : List (String × Json) → Nat
  | [] => 0
  | (_, value) :: rest => max value.height (membersHeight rest)

end

end Json

namespace Exchange.Read

/-- A value or a name. -/
def term (json : Json) : Option Term :=
  match json with
  | .object [("ref", .string name)] => some (.name name)
  | _ => (value .empty json).map .value

/-- A declared field. -/
def declaredField (isStatic : Bool) (json : Json) : Option FieldDefinition := do
  let [name, signature] ← json.items? | none
  return ⟨← text name, ← text signature, isStatic⟩

/-- A local variable of a frame with its value. -/
def localValue (json : Json) : Option (String × String × Term) := do
  let [name, signature, value] ← json.items? | none
  return (← text name, ← text signature, ← term value)

/-- A class by its id or by its signature. -/
def classOrSignature (json : Json) : Option (Wire.TypeId ⊕ String) :=
  match word json with
  | some id => some (.inl id)
  | none => (text json).map .inr

/-- How a method ends. -/
def ending (json : Json) : Option Ending :=
  match json.member? "throw", json.member? "return" with
  | some thrown, _ => (term thrown).map .throwTerm
  | none, some (.object [("field", .string name)]) => some (.returnField name)
  | none, some returned => (term returned).map .returnTerm
  | none, none => some .returnVoid

/-- A class whose methods are read by `method`. -/
def classDefinition (method : Json → Option (MethodDefinition Routine)) (json : Json) :
    Option (ClassDefinition Routine) := do
  let bare : ClassDefinition Routine := .bare (← text (← field json "sig"))
  let superclass ← optional text (json.member? "super")
  let inherited := if flag json "interface" then none else bare.superclass
  let fields ← listOr (declaredField false) (json.member? "fields")
  let statics ← listOr (declaredField true) (json.member? "statics")
  return { bare with
    superclass := superclass.or inherited
    interfaces := ← listOr text (json.member? "implements")
    fields := fields ++ statics
    methods := ← listOr method (json.member? "methods") }

/-- An act that holds no other acts. -/
def simpleAct (json : Json) : Option Act := do
  let label ← optional text (json.member? "as")
  match ← text (← field json "act") with
  | "object" => return .newObject label (← text (← field json "class"))
  | "string" => return .newString label (← text (← field json "text"))
  | "array" =>
      return .newArray label (← text (← field json "sig")) (← listOr term (json.member? "values"))
  | "name" => return .bindName label (← term (← field json "value"))
  | "frame" => do
      let receiver ← optional term (json.member? "this")
      return .pushFrame (← word (← field json "thread")) (← classOrSignature (← field json "class"))
        (← word (← field json "method")) (receiver.getD (.value .null))
        (← listOr localValue (json.member? "locals"))
  | "set_field" =>
      return .setField (← term (← field json "of")) (← text (← field json "name"))
        (← term (← field json "value"))
  | "set_static" =>
      return .setStatic (← text (← field json "class")) (← text (← field json "name"))
        (← term (← field json "value"))
  | "reissue" => return .reissueFrames (← word (← field json "thread"))
  | "pop_frame" => return .popFrame (← word (← field json "thread"))
  | "disconnect" => return .disconnect
  | "cancel" => return .cancel
  | _ => none

/-- An act whose description is no higher than a bound. -/
def actWithin : Nat → Json → Option Act
  | 0, _ => none
  | height + 1, json =>
      if json.member? "act" matches some (.string "class") then
        (classDefinition (fun json => do
          return {
            name := ← text (← field json "name")
            signature := ← text (← field json "sig")
            isStatic := flag json "static"
            body := .ofActs (← listOr (actWithin height) (json.member? "do")) (← ending json) })
          json).map .loadClass
      else simpleAct json

/-- An act of a script. -/
def act (json : Json) : Option Act :=
  actWithin json.height json

end Exchange.Read

end FrameEval
