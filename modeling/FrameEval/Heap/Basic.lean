import FrameEval.Member
import FrameEval.RemoteValue.Basic
import FrameEval.SymbolTable
import FrameEval.Table

/-!
# An in-memory target: its heap

A target that lives in memory: loaded classes with their methods, objects, arrays, strings,
and a stack of frames for each thread.  Every class, object, string, array and frame gets
the next number as its id, so no two things ever share one.

A heap is generic in what the body of a method is.
-/

namespace FrameEval

open Wire

/-- A declared field. -/
structure FieldDefinition where
  name : String
  signature : String
  isStatic : Bool
  deriving DecidableEq

/-- A declared method. -/
structure MethodDefinition (Body : Type) where
  name : String
  signature : String
  isStatic : Bool
  body : Body

/-- A class or an interface. -/
structure ClassDefinition (Body : Type) where
  signature : String
  superclass : Option String
  interfaces : List String
  fields : List FieldDefinition
  methods : List (MethodDefinition Body)

/-- A class without members that extends the root class, unless it is that one. -/
def ClassDefinition.bare {Body : Type} (signature : String) : ClassDefinition Body where
  signature := signature
  superclass := if signature = Signature.objectClass then none else some Signature.objectClass
  interfaces := []
  fields := []
  methods := []

/-- A frame on the stack of a thread. -/
structure Frame where
  location : Location
  receiver : RemoteValue
  /-- The local variables with their values, in the order of their slots. -/
  locals : List (Variable × RemoteValue)

/-- A frame at the start of a method, with locals that are live throughout it. -/
def Frame.ofMethod (classId : TypeId) (methodId : MethodId) (receiver : RemoteValue)
    (locals : List (String × String × RemoteValue)) : Frame where
  location := ⟨1, classId, methodId, 0⟩
  receiver := receiver
  locals := locals.mapIdx fun slot entry =>
    (⟨0, entry.1, entry.2.1, UInt32.ofNat (UInt32.size - 1), UInt32.ofNat slot⟩, entry.2.2)

/-- An object that is neither an array nor a string. -/
structure HeapObject where
  className : String
  fields : Table String RemoteValue

/-- An array with its elements. -/
structure HeapArray where
  handle : ArrayHandle
  elements : List RemoteValue

/-- The state of an in-memory target. -/
structure Heap (Body : Type) where
  /-- The id that was given out last. -/
  lastId : UInt64
  classIds : Table String TypeId
  classes : Table TypeId (ClassDefinition Body)
  statics : Table (TypeId × String) RemoteValue
  objects : Table ObjectId HeapObject
  arrays : Table ObjectId HeapArray
  strings : Table ObjectId String
  /-- The frames of each thread with their ids, the top one first. -/
  threads : Table ThreadId (List (FrameId × Frame))

/-- The value that a fresh field of a type holds. -/
def RemoteValue.initial (signature : String) : RemoteValue :=
  .default (.ofSignature signature)

namespace Heap

variable {Body : Type}

/-- Give out the next id. -/
def allocate (heap : Heap Body) : UInt64 × Heap Body :=
  (heap.lastId + 1, { heap with lastId := heap.lastId + 1 })

/-! ## Classes -/

/-- Load a class; its static fields get their initial values. -/
def addClass (definition : ClassDefinition Body) (heap : Heap Body) : TypeId × Heap Body :=
  let (id, heap) := heap.allocate
  let statics := definition.fields.filter FieldDefinition.isStatic
  (id, { heap with
    statics := statics.foldl
      (fun table field => table.insert (id, field.name) (.initial field.signature)) heap.statics
    classIds := heap.classIds.insert definition.signature id
    classes := heap.classes.insert id definition })

/-- A loaded class with its id. -/
def class? (heap : Heap Body) (signature : String) :
    Except EvalError (TypeId × ClassDefinition Body) :=
  match heap.classIds.find? signature with
  | none => .error (.noSuchClass signature)
  | some id =>
      match heap.classes.find? id with
      | none => .error (.noSuchClass signature)
      | some definition => .ok (id, definition)

/-- A class and its superclasses, at most so many, the most derived one first. -/
def lineageWithin (heap : Heap Body) :
    Nat → String → Except EvalError (List (TypeId × ClassDefinition Body))
  | 0, _ => .ok []
  | limit + 1, signature => do
      let found ← heap.class? signature
      match found.2.superclass with
      | none => return [found]
      | some superclass => return found :: (← heap.lineageWithin limit superclass)

/--
A class and its superclasses, the most derived one first.  No chain without repetition is
longer than the number of loaded classes.
-/
def lineage (heap : Heap Body) (signature : String) :
    Except EvalError (List (TypeId × ClassDefinition Body)) :=
  heap.lineageWithin (heap.classIds.size + 1) signature

/-- The signature of the runtime class of a value. -/
def runtimeClass (heap : Heap Body) (value : RemoteValue) : Except EvalError String :=
  match value with
  | .object handle =>
      if heap.strings.contains handle.id then .ok Signature.stringClass
      else
        match heap.objects.find? handle.id with
        | some object => .ok object.className
        | none => .error .staleHandle
  | .array handle =>
      match heap.arrays.find? handle.id with
      | some array => .ok array.handle.signature
      | none => .error .staleHandle
  | .null => .error .nullReceiver
  | other => .error (.typeMismatch s!"{other.typeName} has no runtime class")

/-! ## Objects -/

/-- The instance fields of a class and its superclasses with their initial values. -/
def initialFields (heap : Heap Body) (className : String) : Table String RemoteValue :=
  match heap.lineage className with
  | .error _ => .empty
  | .ok lineage =>
      (lineage.flatMap fun entry => entry.2.fields.filter (!·.isStatic)).foldl
        (fun table field =>
          if table.contains field.name then table
          else table.insert field.name (.initial field.signature))
        .empty

/-- Create an object; a class that is not loaded is loaded without members. -/
def newObject (className : String) (heap : Heap Body) : RemoteValue × Heap Body :=
  let heap :=
    if heap.classIds.contains className then heap else (heap.addClass (.bare className)).2
  let fields := heap.initialFields className
  let (id, heap) := heap.allocate
  (.object (.plain id), { heap with objects := heap.objects.insert id ⟨className, fields⟩ })

/-- Create a string. -/
def newString (text : String) (heap : Heap Body) : RemoteValue × Heap Body :=
  let (id, heap) := heap.allocate
  (.object (.string id), { heap with strings := heap.strings.insert id text })

/-- Create an array; an id is used up even if the signature is not that of an array. -/
def newArray (signature : String) (elements : List RemoteValue) (heap : Heap Body) :
    Except EvalError RemoteValue × Heap Body :=
  let (id, heap) := heap.allocate
  match ArrayHandle.ofSignature id signature with
  | .error error => (.error error, heap)
  | .ok handle =>
      (.ok (.array handle), { heap with arrays := heap.arrays.insert id ⟨handle, elements⟩ })

/-- The elements of an array. -/
def elements (heap : Heap Body) (array : RemoteValue) : List RemoteValue :=
  match array.objectId?.bind heap.arrays.find? with
  | some array => array.elements
  | none => []

/-- The value of a field of an object. -/
def fieldValue? (heap : Heap Body) (object : RemoteValue) (name : String) : Option RemoteValue := do
  let object ← heap.objects.find? (← object.objectId?)
  object.fields.find? name

/-- Set a field of an object, whether it is declared or not. -/
def setField (object : RemoteValue) (name : String) (value : RemoteValue) (heap : Heap Body) :
    Heap Body :=
  match object.objectId? with
  | none => heap
  | some id =>
      { heap with
        objects := heap.objects.modify id fun object =>
          { object with fields := object.fields.insert name value } }

/-- The value of a static field, looked up in the class itself. -/
def staticValue? (heap : Heap Body) (className name : String) : Option RemoteValue := do
  let id ← heap.classIds.find? className
  heap.statics.find? (id, name)

/-- Set a static field of a loaded class, whether it is declared or not. -/
def setStatic (className name : String) (value : RemoteValue) (heap : Heap Body) : Heap Body :=
  match heap.classIds.find? className with
  | none => heap
  | some id => { heap with statics := heap.statics.insert (id, name) value }

/-! ## Frames -/

/-- The frames of a thread, the top one first. -/
def frames (heap : Heap Body) (thread : ThreadId) : List (FrameId × Frame) :=
  (heap.threads.find? thread).getD []

/-- Push a frame on the stack of a thread. -/
def pushFrame (thread : ThreadId) (frame : Frame) (heap : Heap Body) : FrameId × Heap Body :=
  let (id, heap) := heap.allocate
  (id, { heap with threads := heap.threads.insert thread ((id, frame) :: heap.frames thread) })

/-- Pop the top frame of a thread, as if its method had returned. -/
def popFrame (thread : ThreadId) (heap : Heap Body) : Heap Body :=
  { heap with threads := heap.threads.modify thread (List.drop 1) }

/-- Give out a new id for every frame of a list, the top one first. -/
def reissue : List (FrameId × Frame) → Heap Body → List (FrameId × Frame) × Heap Body
  | [], heap => ([], heap)
  | (_, frame) :: rest, heap =>
      let (id, heap) := heap.allocate
      let (later, heap) := reissue rest heap
      ((id, frame) :: later, heap)

/-- Give every frame of a thread a new id, as a target may do after the thread ran. -/
def reissueFrames (thread : ThreadId) (heap : Heap Body) : Heap Body :=
  match heap.threads.find? thread with
  | none => heap
  | some frames =>
      let (frames, heap) := reissue frames heap
      { heap with threads := heap.threads.insert thread frames }

/-- The value of a local variable of a frame by name. -/
def localValue? (heap : Heap Body) (thread : ThreadId) (depth : Nat) (name : String) :
    Option RemoteValue := do
  let frame ← (heap.frames thread)[depth]?
  let entry ← frame.2.locals.find? fun entry => entry.1.name = name
  return entry.2

/-- The frame of a thread with a given id. -/
def liveFrame (heap : Heap Body) (thread : ThreadId) (frame : FrameId) : Except EvalError Frame :=
  match (heap.frames thread).find? fun entry => entry.1 = frame with
  | some entry => .ok entry.2
  | none => .error (.staleFrame s!"invalid frame id {Text.hex frame.toNat}")

/-- Nothing is loaded, and the first id will be 0x101. -/
def blank : Heap Body :=
  ⟨0x100, .empty, .empty, .empty, .empty, .empty, .empty, .empty⟩

/-- A heap with the root class and the class of strings. -/
def empty : Heap Body :=
  let heap := (blank.addClass (.bare Signature.objectClass)).2
  (heap.addClass (.bare Signature.stringClass)).2

end Heap

end FrameEval
