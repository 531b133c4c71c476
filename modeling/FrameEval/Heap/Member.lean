import FrameEval.Heap.Basic

/-!
# An in-memory target: members and slots

How fields and methods are found and how fields, elements and slots are read and written.
Members are looked for in a class and then in its superclasses; interfaces are not searched.
-/

namespace FrameEval

open Wire

section

variable {Body : Type}

/-- A method at its place in a class. -/
def MethodDefinition.ref (id : TypeId) (place : Nat × MethodDefinition Body) : MethodRef :=
  ⟨id, UInt64.ofNat place.1, place.2.name, place.2.signature, place.2.isStatic⟩

/-- The methods of a class as a lookup finds them. -/
def ClassDefinition.methodRefs (definition : ClassDefinition Body) (id : TypeId) :
    List MethodRef :=
  definition.methods.zipIdx.map fun entry => MethodDefinition.ref id (entry.2, entry.1)

end

/-- Whether a method is one that a search looks for, if that can be told. -/
def MethodRef.isWanted? (selector : MethodSelector) (wantStatic : Bool) (method : MethodRef) :
    Option Bool :=
  selector.selectsAmong? wantStatic method.name method.signature method.isStatic

namespace Heap

variable {Body : Type}

/-! ## Members -/

/-- The first item of a list that passes a test, with its position. -/
def firstWith {α : Type} (test : α → Bool) : Nat → List α → Option (Nat × α)
  | _, [] => none
  | index, item :: rest => if test item then some (index, item) else firstWith test (index + 1) rest

/-- The first method, if there is one, that a selector selects in a list of classes. -/
def methodIn? (selector : MethodSelector) (wantStatic : Bool)
    (classes : List (TypeId × ClassDefinition Body)) : Option (Option MethodRef) :=
  (classes.flatMap fun entry => entry.2.methodRefs entry.1).findM?
    (MethodRef.isWanted? selector wantStatic)

/-- A method of a class, or also of its superclasses. -/
def findMethod (heap : Heap Body) (className : String) (selector : MethodSelector)
    (wantStatic inherited : Bool) : Except Halt MethodRef := do
  let lineage ← (heap.lineage className).mapError .failed
  let searched := if inherited then lineage else lineage.take 1
  match methodIn? selector wantStatic searched with
  | none => .error .aborted
  | some (some method) => return method
  | some none => .error (.failed (.noSuchMethod s!"{selector.display} in {className}"))

/-- The first field of a name in a list of classes. -/
def fieldIn? (name : String) (classes : List (TypeId × ClassDefinition Body)) : Option FieldRef :=
  classes.findSome? fun entry => do
    let (index, field) ← firstWith (fun field => field.name = name) 0 entry.2.fields
    return ⟨entry.1, UInt64.ofNat index, field.name, field.signature, field.isStatic⟩

/-- A field of a class or of its superclasses. -/
def findField (heap : Heap Body) (className name : String) : Except EvalError FieldRef := do
  match fieldIn? name (← heap.lineage className) with
  | some field => return field
  | none => .error (.noSuchField s!"{name} in {className}")

/-- The body of a method. -/
def body (heap : Heap Body) (method : MethodRef) : Except EvalError Body :=
  match (heap.classes.find? method.declaringType).bind fun definition =>
      definition.methods[method.id.toNat]? with
  | some found => .ok found.body
  | none => .error (.noSuchMethod method.name)

/-! ## Arrays, frames and fields -/

/-- The error of an array index that is out of bounds. -/
def invalidIndex : EvalError :=
  .protocol "JDWP error 503 (INVALID_INDEX)"

/-- The elements of an array by its handle. -/
def arrayElements (heap : Heap Body) (array : ArrayHandle) : Except EvalError (List RemoteValue) :=
  match heap.arrays.find? array.id with
  | some found => .ok found.elements
  | none => .error .staleHandle

/-- An element of an array. -/
def element (heap : Heap Body) (array : ArrayHandle) (index : Int32) :
    Except EvalError RemoteValue := do
  let elements ← heap.arrayElements array
  if index < 0 then throw invalidIndex
  match elements[index.toInt.toNat]? with
  | some element => return element
  | none => throw invalidIndex

/-- Set an element of an array. -/
def putElement (array : ArrayHandle) (index : Int32) (value : RemoteValue) (heap : Heap Body) :
    Except EvalError (Heap Body) := do
  let elements ← heap.arrayElements array
  if index < 0 ∨ elements.length ≤ index.toInt.toNat then throw invalidIndex
  let change (array : HeapArray) : HeapArray :=
    { array with elements := array.elements.set index.toInt.toNat value }
  return { heap with arrays := heap.arrays.modify array.id change }

/-- The value in a slot of a frame. -/
def slotValue (frame : Frame) (slot : LocalSlot) : Except EvalError RemoteValue :=
  match frame.locals.find? fun entry => entry.1.slot = slot.slot with
  | some entry => .ok entry.2
  | none => .error (.protocol s!"invalid slot {slot.slot.toNat}")

/-- Change the value of the first local variable in a slot. -/
def setSlot (slot : UInt32) (value : RemoteValue) :
    List (Variable × RemoteValue) → List (Variable × RemoteValue)
  | [] => []
  | entry :: rest =>
      if entry.1.slot = slot then (entry.1, value) :: rest else entry :: setSlot slot value rest

/-- Change the first frame with a given id. -/
def changeFrame (frame : FrameId) (change : Frame → Frame) :
    List (FrameId × Frame) → List (FrameId × Frame)
  | [] => []
  | entry :: rest =>
      if entry.1 = frame then (entry.1, change entry.2) :: rest
      else entry :: changeFrame frame change rest

/-- Set the variable in a slot of a frame. -/
def setFrameValue (thread : ThreadId) (frame : FrameId) (slot : LocalSlot) (value : RemoteValue)
    (heap : Heap Body) : Except EvalError (Heap Body) := do
  let found ← heap.liveFrame thread frame
  let _ ← slotValue found slot
  let change (frame : Frame) : Frame :=
    { frame with locals := setSlot slot.slot value frame.locals }
  return { heap with
    threads := heap.threads.insert thread (changeFrame frame change (heap.frames thread)) }

/-- The variables of the first frame that runs a method. -/
def variableTable (heap : Heap Body) (location : Location) : List Variable :=
  match heap.threads.values.flatten.find? fun entry => entry.2.location.sameMethod location with
  | some entry => entry.2.locals.map Prod.fst
  | none => []

/-- The frame of a thread at a depth. -/
def frameAt (heap : Heap Body) (thread : ThreadId) (depth : Nat) : Except EvalError FrameInfo :=
  match (heap.frames thread)[depth]? with
  | some (id, frame) => .ok ⟨id, frame.location⟩
  | none =>
      let name := Text.hex thread.toNat
      .error (.staleFrame s!"thread {name} has no frame {depth}")

/-- The values in slots of a frame, the first bad slot failing. -/
def frameValues (heap : Heap Body) (thread : ThreadId) (frame : FrameId)
    (slots : List LocalSlot) : Except EvalError (List RemoteValue) := do
  let found ← heap.liveFrame thread frame
  slots.mapM (slotValue found)

/-- The text of a string. -/
def stringText (heap : Heap Body) (string : ObjectHandle) : Except EvalError String :=
  match heap.strings.find? string.id with
  | some text => .ok text
  | none => .error .staleHandle

/-- The direct superclass and interfaces of a loaded class. -/
def supertypes (heap : Heap Body) (signature : String) : Except EvalError (List String) := do
  let found ← heap.class? signature
  return found.2.superclass.toList ++ found.2.interfaces

/-- The value of a field; the field of a static reference belongs to its class. -/
def getField (heap : Heap Body) (receiver : Option RemoteValue) (field : FieldRef) :
    Except EvalError RemoteValue := do
  let held ←
    if field.isStatic then pure (heap.statics.find? (field.declaringType, field.name))
    else
      match receiver.bind RemoteValue.objectId? with
      | none => throw .nullReceiver
      | some id =>
          match heap.objects.find? id with
          | none => throw .staleHandle
          | some object => pure (object.fields.find? field.name)
  match held with
  | some value => return value
  | none => throw (.noSuchField field.name)

/-- Set a field; the field of a static reference belongs to its class. -/
def putField (receiver : Option RemoteValue) (field : FieldRef) (value : RemoteValue)
    (heap : Heap Body) : Except EvalError (Heap Body) :=
  if field.isStatic then
    .ok { heap with statics := heap.statics.insert (field.declaringType, field.name) value }
  else
    match receiver.bind RemoteValue.objectId? with
    | none => .error .nullReceiver
    | some id =>
        if heap.objects.contains id then
          .ok { heap with
            objects := heap.objects.modify id fun object =>
              { object with fields := object.fields.insert field.name value } }
        else .error .staleHandle

/-- An array of initial values; the signature is checked before an id is used. -/
def allocateArray (signature : String) (length : Int32) (heap : Heap Body) :
    Except EvalError RemoteValue × Heap Body :=
  match ArrayHandle.ofSignature 0 signature with
  | .error error => (.error error, heap)
  | .ok handle =>
      heap.newArray signature
        (List.replicate length.toInt.toNat (RemoteValue.default handle.element))

/-- The class whose methods a value has; an array has those of the root class. -/
def methodClass (heap : Heap Body) (receiver : RemoteValue) : Except EvalError String := do
  let className ← heap.runtimeClass receiver
  return if Signature.isArray className then Signature.objectClass else className

/-- A field that a receiver has; an array has none. -/
def instanceField (heap : Heap Body) (receiver : RemoteValue) (name : String) :
    Except EvalError FieldRef := do
  let className ← heap.runtimeClass receiver
  if Signature.isArray className then throw (.noSuchField s!"{name} in {className}")
  heap.findField className name

/-- A static field of a class; the nearest field of the name must be static. -/
def staticField (heap : Heap Body) (className name : String) : Except EvalError FieldRef := do
  let field ← heap.findField className name
  if field.isStatic then return field
  throw (.noSuchField s!"static {name} in {className}")

end Heap

end FrameEval
