import FrameEval.Evaluation.Assignable
import FrameEval.Text.Quoted

/-!
# Evaluation in a frame

An evaluation is bound to one frame of a suspended thread.  Here names are resolved against
the frame, values are checked against declared types, and methods are invoked on the bound
thread.  Whenever the target ran code, the frame is fetched again: its id may have changed,
and if another method now runs at its depth the frame is gone.
-/

namespace FrameEval

open Wire

/-- The frame that an evaluation is bound to. -/
structure Binding where
  thread : ThreadId
  depth : Nat
  /-- Where the frame stood when it was bound. -/
  location : Location
  symbols : SymbolTable

/-- A bound frame with its current id. -/
structure Context where
  binding : Binding
  frameId : FrameId

/-- What holds throughout an evaluation. -/
structure Setting where
  binding : Binding
  /-- How many types one search of a type hierarchy may look at. -/
  searchLimit : Nat

namespace Evaluation

variable (setting : Setting)

/-- The receiver of the frame; null in a static one. -/
def currentReceiver : Evaluation RemoteValue := do
  perform (.thisObject setting.binding.thread (← get).frameId)

/-- The slot of a local variable of the frame. -/
def slotOf (name : String) : Evaluation LocalSlot :=
  match setting.binding.symbols.find? name with
  | some slot => return slot
  | none => fail (.noSuchVariable name)

/-- The value of a local variable of the frame. -/
def localVariable (name : String) : Evaluation RemoteValue := do
  let slot ← slotOf setting name
  let values ← perform (.frameValues setting.binding.thread (← get).frameId [slot])
  match values.getLast? with
  | some value => return value
  | none => fail (.protocol s!"no value returned for local {name}")

/-- Whether the runtime type of an object or an array is a given type. -/
def instanceOf (value : RemoteValue) (target : String) : Evaluation Bool := do
  let runtime ← perform (.typeSignature value)
  isAssignable setting.searchLimit runtime target

/-- The error of a value that does not fit a declared type. -/
def notAssignable (value : RemoteValue) (declared : String) : EvalError :=
  .typeMismatch s!"{value.typeName} is not assignable to {Signature.typeName declared}"

/-- The value that is stored where a type is declared; a primitive is widened to it. -/
def assign (value : RemoteValue) (declared : String) : Evaluation RemoteValue :=
  match PrimitiveKind.ofSignature? declared with
  | some kind =>
      match value with
      | .primitive given =>
          if given.kind.widensTo kind then ofExcept ((given.cast kind).map .primitive)
          else fail (notAssignable value declared)
      | _ => fail (notAssignable value declared)
  | none =>
      match value with
      | .null => return value
      | .primitive _ => fail (notAssignable value declared)
      | .void => fail (notAssignable value declared)
      | _ => do
          if ← instanceOf setting value declared then return value
          else fail (notAssignable value declared)

/-- Assign to a local variable of the frame. -/
def setLocalVariable (name : String) (value : RemoteValue) : Evaluation Unit := do
  let slot ← slotOf setting name
  let value ← assign setting value slot.signature
  perform (.setFrameValue setting.binding.thread (← get).frameId slot value)

/-- Assign each argument to its parameter, the first one first. -/
def assignAll : List RemoteValue → List String → Evaluation (List RemoteValue)
  | argument :: arguments, parameter :: parameters => do
      let first ← assign setting argument parameter
      let rest ← assignAll arguments parameters
      return first :: rest
  | _, _ => return []

/-- The arguments as the parameters of a method declare them. -/
def convertArguments (method : MethodRef) (arguments : List RemoteValue) :
    Evaluation (List RemoteValue) := do
  let parameters ← orAbort (Signature.parameters? method.signature)
  if parameters.length ≠ arguments.length then
    let wanted := parameters.length
    let given := arguments.length
    fail (.noSuchMethod
      s!"{method.name}{method.signature} takes {wanted} arguments, {given} given")
  else assignAll setting arguments parameters

/-- Fetch the frame again after the target ran code. -/
def revalidate : Evaluation Unit := do
  let depth := setting.binding.depth
  let frame ← perform (.frame setting.binding.thread depth)
  if frame.location.sameMethod setting.binding.location then
    modify fun activation => { activation with frameId := frame.id }
  else fail (.staleFrame s!"frame {depth} no longer executes the evaluated method")

/-- Invoke a found method on the bound thread. -/
def invokeFound (receiver : Option RemoteValue) (method : MethodRef)
    (arguments : List RemoteValue) : Evaluation InvokeOutcome := do
  let arguments ← convertArguments setting method arguments
  let outcome ← perform (.invoke setting.binding.thread receiver method arguments)
  revalidate setting
  return outcome

/-- Invoke an instance method. -/
def invoke (receiver : RemoteValue) (selector : MethodSelector)
    (arguments : List RemoteValue) : Evaluation InvokeOutcome :=
  match receiver with
  | .null => fail .nullReceiver
  | .primitive _ => fail (refused receiver)
  | .void => fail (refused receiver)
  | _ => do
      let method ← perform (.instanceMethod receiver selector)
      invokeFound setting (some receiver) method arguments
where
  refused (receiver : RemoteValue) : EvalError :=
    .typeMismatch s!"cannot invoke {selector.display} on {receiver.typeName}"

/-- Invoke a static method. -/
def invokeStatic (className : String) (selector : MethodSelector)
    (arguments : List RemoteValue) : Evaluation InvokeOutcome := do
  let method ← perform (.staticMethod className selector)
  invokeFound setting none method arguments

/-- Construct an object. -/
def construct (className : String) (selector : MethodSelector)
    (arguments : List RemoteValue) : Evaluation InvokeOutcome := do
  let constructor ← perform (.constructor className selector)
  let arguments ← convertArguments setting constructor arguments
  let outcome ← perform (.newInstance setting.binding.thread constructor arguments)
  revalidate setting
  return outcome

/-- The method by which an exception tells its detail message. -/
def messageSelector : MethodSelector :=
  ⟨"getMessage", some "()Ljava/lang/String;", 0⟩

example :
    MethodSelector.ofSignature? "getMessage" "()Ljava/lang/String;" = some messageSelector := by
  decide

/-- The detail message of an exception, none when it cannot be told. -/
def detailMessage (exception : ObjectHandle) : Evaluation (Option ObjectHandle) :=
  tryCatch
    (do
      match ← invoke setting (.object exception) messageSelector [] with
      | .returned (.object text) => return some text
      | _ => return none)
    fun halt =>
      match halt with
      | .failed error => if error.isConnectionLoss then throw halt else return none
      | .exhausted => throw halt
      | .aborted => throw halt

/-- The class of an exception, with its detail message if it has one. -/
def exceptionDescription (exception : ObjectHandle) : Evaluation String := do
  let signature ← perform (.typeSignature (.object exception))
  let className := Signature.typeName signature
  match ← detailMessage setting exception with
  | some text => do
      let message ← perform (.stringValue text)
      return s!"{className}: {message}"
  | none => return className

omit setting in
/-- The text of a value with class names, string contents and array lengths. -/
def describe (value : RemoteValue) : Evaluation String :=
  match value with
  | .object handle =>
      if handle.isString then do
        let text ← perform (.stringValue handle)
        return Text.quote text
      else do
        let signature ← perform (.typeSignature value)
        return s!"(object) {signature} @{Text.hex handle.id.toNat}"
  | .array handle => do
      let length ← perform (.arrayLength handle)
      return s!"{value.display} length {length.toInt}"
  | other => return other.display

end Evaluation

end FrameEval
