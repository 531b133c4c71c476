import FrameEval.Evaluation.Basic
import FrameEval.Heap.Member
import FrameEval.World.Script

/-!
# What a world answers

The answer of a world to each operation.  Every operation that reaches a connected world is
logged; an invocation runs the body of the method, which may itself change the world.
-/

namespace FrameEval.World

/-- Answer from a search of the heap and keep it. -/
def searches {α : Type} (world : World) (answer : Heap Routine → Except Halt α) :
    Except Halt α × World :=
  (answer world.heap, world)

/-- Answer from the heap and keep it. -/
def reads {α : Type} (world : World) (answer : Heap Routine → Except EvalError α) :
    Except Halt α × World :=
  world.searches fun heap => (answer heap).mapError .failed

/-- Change the heap, or keep it when the change fails. -/
def writes (world : World) (change : Heap Routine → Except EvalError (Heap Routine)) :
    Except Halt Unit × World :=
  match change world.heap with
  | .ok heap => (.ok (), { world with heap := heap })
  | .error error => (.error (.failed error), world)

/-- Invoke a method on a receiver. -/
def invoke (world : World) (method : MethodRef) (receiver : RemoteValue)
    (arguments : List RemoteValue) : Except Halt InvokeOutcome × World :=
  match world.heap.body method with
  | .error error => (.error (.failed error), world)
  | .ok routine =>
      let (outcome, world) := world.call routine receiver arguments
      (.ok outcome, world)

/-- Create an object and invoke its constructor; what that returns is the object. -/
def newInstance (world : World) (constructor : MethodRef) (arguments : List RemoteValue) :
    Except Halt InvokeOutcome × World :=
  match world.heap.body constructor, world.heap.classes.find? constructor.declaringType with
  | .error error, _ => (.error (.failed error), world)
  | .ok _, none => (.error (.failed (.noSuchClass constructor.name)), world)
  | .ok routine, some definition =>
      let (object, world) := world.onHeap (Heap.newObject definition.signature)
      match world.call routine object arguments with
      | (.returned _, world) => (.ok (.returned object), world)
      | (.threw exception, world) => (.ok (.threw exception), world)

/-- The answer of a connected world. -/
def respond (world : World) :
    (operation : Operation) → Except Halt operation.Answer × World
  | .frame thread depth => world.reads (·.frameAt thread depth)
  | .variableTable location => world.reads fun heap => .ok (heap.variableTable location)
  | .thisObject thread frame => world.reads fun heap =>
      (heap.liveFrame thread frame).map Frame.receiver
  | .frameValues thread frame slots => world.reads (·.frameValues thread frame slots)
  | .setFrameValue thread frame slot value =>
      world.writes (Heap.setFrameValue thread frame slot value)
  | .createString text =>
      let (string, world) := world.onHeap (Heap.newString text)
      (.ok string, world)
  | .stringValue string => world.reads (·.stringText string)
  | .typeSignature value => world.reads (·.runtimeClass value)
  | .supertypes signature => world.reads (·.supertypes signature)
  | .arrayLength array => world.reads fun heap =>
      (heap.arrayElements array).map fun elements => Int32.ofNat elements.length
  | .arrayGet array index => world.reads (·.element array index)
  | .arraySet array index value => world.writes (Heap.putElement array index value)
  | .newArray signature length =>
      let (made, world) := world.onHeap (Heap.allocateArray signature length)
      (made.mapError .failed, world)
  | .instanceField receiver name => world.reads (·.instanceField receiver name)
  | .staticField className name => world.reads (·.staticField className name)
  | .getField receiver field => world.reads (·.getField receiver field)
  | .setField receiver field value => world.writes (Heap.putField receiver field value)
  | .instanceMethod receiver selector => world.searches fun heap => do
      let className ← (heap.methodClass receiver).mapError .failed
      heap.findMethod className selector false true
  | .staticMethod className selector =>
      world.searches (·.findMethod className selector true true)
  | .constructor className selector =>
      world.searches (·.findMethod className selector false false)
  | .invoke _ receiver method arguments => world.invoke method (receiver.getD .null) arguments
  | .newInstance _ constructor arguments => world.newInstance constructor arguments

/-- The answer of a world; a disconnected one refuses every operation and logs none. -/
def answer (world : World) (operation : Operation) :
    Except Halt operation.Answer × World :=
  if world.connected then
    { world with log := operation.label :: world.log }.respond operation
  else (.error (.failed .disconnected), world)

/-- The answer of a world to what an evaluation asks. -/
def handle (inquiry : Inquiry) (world : World) : inquiry.Answer × World :=
  match inquiry with
  | .operation operation => world.answer operation
  | .cancelled => (world.cancelled, world)

end FrameEval.World
