import FrameEval.Heap.Basic
import FrameEval.Remote.Operation

/-!
# Scripts

A small language that builds an in-memory target and says what its methods do.  Values are
literal or named; a method body first names its receiver and its arguments, then performs
its acts, and then throws or returns.  Names are global, so a body sees what was named
before it.
-/

namespace FrameEval

open Wire

/-- A value of a script. -/
inductive Term where
  | value (value : RemoteValue)
  | name (name : String)

/-- How the body of a method ends. -/
inductive Ending where
  | returnVoid
  | returnTerm (term : Term)
  /-- Return a field of the receiver. -/
  | returnField (name : String)
  | throwTerm (term : Term)

mutual

/-- One act of a script; a label names its result. -/
inductive Act where
  | loadClass (definition : ClassDefinition Routine)
  | newObject (label : Option String) (className : String)
  | newString (label : Option String) (text : String)
  | newArray (label : Option String) (signature : String) (elements : List Term)
  | bindName (label : Option String) (term : Term)
  | pushFrame (thread : ThreadId) (classId : TypeId ⊕ String) (method : MethodId)
      (receiver : Term) (locals : List (String × String × Term))
  | setField (object : Term) (name : String) (value : Term)
  | setStatic (className name : String) (value : Term)
  | reissueFrames (thread : ThreadId)
  | popFrame (thread : ThreadId)
  /-- Every later operation on the target fails. -/
  | disconnect
  /-- Cancel the evaluation that is running. -/
  | cancel

/-- The body of a method. -/
inductive Routine where
  | ofActs (acts : List Act) (ending : Ending)

end

/-- What an act results in. -/
inductive ActResult where
  | value (value : RemoteValue)
  | id (id : UInt64)
  | nothing

/-- A target with the names of a script and the flags that acts set. -/
structure World where
  heap : Heap Routine
  names : Table String RemoteValue
  connected : Bool
  /-- Whether the running evaluation was cancelled. -/
  cancelled : Bool
  /-- The operations that reached the target, the latest first. -/
  log : List String

namespace World

/-- A world with nothing but the built-in classes. -/
def empty : World := ⟨.empty, .empty, true, false, []⟩

/-- The value of a term; an unknown name stands for null. -/
def resolve (world : World) : Term → RemoteValue
  | .value value => value
  | .name name => (world.names.find? name).getD .null

/-- Name a value, if there is a label. -/
def label (label : Option String) (value : RemoteValue) (world : World) : World :=
  match label with
  | some name => { world with names := world.names.insert name value }
  | none => world

/-- Work on the heap. -/
def onHeap {α : Type} (action : Heap Routine → α × Heap Routine) (world : World) : α × World :=
  let (result, heap) := action world.heap
  (result, { world with heap := heap })

/-- The id of a class by its signature or itself; an unknown class has the id zero. -/
def classId (world : World) : TypeId ⊕ String → TypeId
  | .inl id => id
  | .inr signature => (world.heap.classIds.find? signature).getD 0

/-- Perform an act. -/
def perform (world : World) : Act → ActResult × World
  | .loadClass definition =>
      let (id, world) := world.onHeap (Heap.addClass definition)
      (.id id, world)
  | .newObject label className =>
      let (object, world) := world.onHeap (Heap.newObject className)
      (.value object, world.label label object)
  | .newString label text =>
      let (string, world) := world.onHeap (Heap.newString text)
      (.value string, world.label label string)
  | .newArray label signature elements =>
      let (array, world) := world.onHeap (Heap.newArray signature (elements.map world.resolve))
      let array := array.toOption.getD .null
      (.value array, world.label label array)
  | .bindName label term =>
      let value := world.resolve term
      (.value value, world.label label value)
  | .pushFrame thread classId method receiver locals =>
      let frame := Frame.ofMethod (world.classId classId) method (world.resolve receiver)
        (locals.map fun entry => (entry.1, entry.2.1, world.resolve entry.2.2))
      let (id, world) := world.onHeap (Heap.pushFrame thread frame)
      (.id id, world)
  | .setField object name value =>
      let heap := world.heap.setField (world.resolve object) name (world.resolve value)
      (.nothing, { world with heap := heap })
  | .setStatic className name value =>
      let heap := world.heap.setStatic className name (world.resolve value)
      (.nothing, { world with heap := heap })
  | .reissueFrames thread =>
      (.nothing, { world with heap := world.heap.reissueFrames thread })
  | .popFrame thread => (.nothing, { world with heap := world.heap.popFrame thread })
  | .disconnect => (.nothing, { world with connected := false })
  | .cancel => (.nothing, { world with cancelled := true })

/-- Perform acts in order. -/
def performAll (world : World) (acts : List Act) : World :=
  acts.foldl (fun world act => (world.perform act).2) world

/-- Name the receiver and the arguments of a call. -/
def nameArguments (receiver : RemoteValue) (arguments : List RemoteValue) (world : World) : World :=
  let names := arguments.zipIdx.foldl
    (fun names entry => names.insert s!"arg{entry.2}" entry.1)
    (world.names.insert "this" receiver)
  { world with names := names }

/-- Run the body of a method. -/
def call (routine : Routine) (receiver : RemoteValue) (arguments : List RemoteValue)
    (world : World) : InvokeOutcome × World :=
  match routine with
  | .ofActs acts ending =>
      let world := (world.nameArguments receiver arguments).performAll acts
      let outcome :=
        match ending with
        | .returnVoid => .returned .void
        | .returnTerm term => .returned (world.resolve term)
        | .returnField name =>
            .returned ((world.heap.fieldValue? (world.resolve (.name "this")) name).getD .null)
        | .throwTerm term =>
            match world.resolve term with
            | .object handle => .threw handle
            | other => .threw (.plain (other.objectId?.getD 0))
      (outcome, world)

end World

end FrameEval
