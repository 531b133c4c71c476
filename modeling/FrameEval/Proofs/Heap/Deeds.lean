import FrameEval.Heap.Member
import Mathlib.Data.List.Nodup
import Mathlib.Data.List.Range

/-!
# What is done to a heap

Whatever happens to a heap is a sequence of deeds: something is created, the frames of a thread
are rearranged, or a value is stored.  Each deed draws ids from the one counter of the heap, and
each id is drawn for one thing.  A deed that only stores a value draws none.
-/

namespace FrameEval

open Wire

namespace Table

variable {Key Value Other : Type} [DecidableEq Key] (table : Table Key Value)

theorem eq_or_of_find?_insert
    {key other : Key} {value found : Value}
    (bound : (table.insert key value).find? other = some found) :
    (other = key ∧ value = found) ∨ table.find? other = some found := by
  by_cases same : other = key
  · subst same
    rw [find?_insert_self] at bound
    exact .inl ⟨rfl, Option.some.inj bound⟩
  · rw [find?_insert_ne table value same] at bound
    exact .inr bound

/-- The same for what a function sees of the bound values. -/
theorem eq_or_of_map_find?_insert
    {key other : Key} {value : Value} {view : Value → Other} {seen : Other}
    (bound : ((table.insert key value).find? other).map view = some seen) :
    (other = key ∧ view value = seen) ∨ (table.find? other).map view = some seen := by
  obtain ⟨found, held, rfl⟩ := Option.map_eq_some_iff.1 bound
  obtain ⟨same, rfl⟩ | before := table.eq_or_of_find?_insert held
  · exact .inl ⟨same, rfl⟩
  · exact .inr (by rw [before]; rfl)

theorem find?_modify_self (key : Key) (change : Value → Value) :
    (table.modify key change).find? key = (table.find? key).map change := by
  rw [modify]
  cases bound : table.find? key with
  | none => exact bound
  | some value => exact find?_insert_self table key (change value)

theorem find?_modify_ne
    {key other : Key} (change : Value → Value) (differs : other ≠ key) :
    (table.modify key change).find? other = table.find? other := by
  rw [modify]
  cases table.find? key with
  | none => rfl
  | some value => exact find?_insert_ne table (change value) differs

/-- A change is not seen by a function that it does not affect. -/
theorem map_find?_modify
    {key : Key} {change : Value → Value} {view : Value → Other}
    (kept : ∀ value, view (change value) = view value) (other : Key) :
    ((table.modify key change).find? other).map view = (table.find? other).map view := by
  by_cases same : other = key
  · subst same
    rw [find?_modify_self, Option.map_map]
    congr 1
    funext value
    exact kept value
  · rw [find?_modify_ne table change same]

end Table

namespace Heap

variable {Body : Type}

/-! ## The counter -/

/-- So many numbers, each of which follows on the one before; after the largest comes zero. -/
def following (last : UInt64) (count : Nat) : List UInt64 :=
  (List.range' 1 count).map fun step => last + .ofNat step

@[simp]
theorem length_following (last : UInt64) (count : Nat) : (following last count).length = count := by
  simp [following]

theorem following_append (last : UInt64) (count more : Nat) :
    following last count ++ following (last + .ofNat count) more =
      following last (count + more) := by
  have later : following (last + .ofNat count) more =
      (List.range' (1 + count) more).map fun step => last + .ofNat step := by
    rw [following, Nat.add_comm 1 count, ← List.map_add_range', List.map_map]
    congr 1
    funext step
    simp only [Function.comp_apply, UInt64.ofNat_add]
    rw [UInt64.add_assoc]
  rw [later, following, following, ← List.map_append, List.range'_append_1]

theorem following_succ (last : UInt64) (count : Nat) :
    following last (count + 1) = (last + 1) :: following (last + 1) count := by
  rw [Nat.add_comm, ← following_append]
  rfl

/-- Each number is further from the one they started from, as long as they are fewer than all. -/
theorem pairwise_following
    {last : UInt64} {count : Nat} (few : count < UInt64.size) :
    (following last count).Pairwise fun earlier later =>
      (earlier - last).toNat < (later - last).toNat := by
  have distance {step : Nat} (member : step ∈ List.range' 1 count) :
      (last + UInt64.ofNat step - last).toNat = step := by
    rw [List.mem_range'_1] at member
    rw [UInt64.add_comm, UInt64.add_sub_cancel]
    exact UInt64.toNat_ofNat_of_lt' (by omega)
  rw [following, List.pairwise_map]
  refine List.Pairwise.imp_of_mem ?_ List.pairwise_lt_range'
  intro earlier later earlierMember laterMember less
  rw [distance earlierMember, distance laterMember]
  exact less

/-- They grow as numbers, too, as long as the counter does not pass the largest one. -/
theorem pairwise_lt_following
    {last : UInt64} {count : Nat} (room : last.toNat + count < UInt64.size) :
    (following last count).Pairwise (· < ·) := by
  have value {step : Nat} (member : step ∈ List.range' 1 count) :
      (last + UInt64.ofNat step).toNat = last.toNat + step := by
    rw [List.mem_range'_1] at member
    have small : step < UInt64.size := by omega
    rw [UInt64.toNat_add, UInt64.toNat_ofNat_of_lt' small]
    exact Nat.mod_eq_of_lt (by omega : last.toNat + step < UInt64.size)
  rw [following, List.pairwise_map]
  refine List.Pairwise.imp_of_mem ?_ List.pairwise_lt_range'
  intro earlier later earlierMember laterMember less
  rw [UInt64.lt_iff_toNat_lt, value earlierMember, value laterMember]
  omega

theorem nodup_following
    {last : UInt64} {count : Nat} (few : count < UInt64.size) : (following last count).Nodup := by
  refine (pairwise_following few).imp ?_
  rintro earlier _ less rfl
  exact Nat.lt_irrefl _ less

/-! ## What an id refers to -/

/-- What an id can be the id of. -/
inductive Referent where
  | ofClass (signature : String)
  | ofObject (className : String)
  | ofString (text : String)
  | ofArray (handle : ArrayHandle)
  | ofFrame (thread : ThreadId)
  deriving DecidableEq

/-- The ids of the frames of a thread, that of the top one first. -/
def frameIds (heap : Heap Body) (thread : ThreadId) : List FrameId :=
  (heap.frames thread).map Prod.fst

/-- What an id refers to in a heap. -/
def Refers (heap : Heap Body) (id : UInt64) : Referent → Prop
  | .ofClass signature =>
      heap.classIds.find? signature = some id ∨
        (heap.classes.find? id).map ClassDefinition.signature = some signature
  | .ofObject className => (heap.objects.find? id).map HeapObject.className = some className
  | .ofString text => heap.strings.find? id = some text
  | .ofArray handle => (heap.arrays.find? id).map HeapArray.handle = some handle
  | .ofFrame thread => id ∈ heap.frameIds thread

/-! ## Deeds -/

/-- One thing that is done to a heap. -/
inductive Deed (Body : Type) where
  | addClass (definition : ClassDefinition Body)
  | newObject (className : String)
  | newString (text : String)
  | newArray (signature : String) (elements : List RemoteValue)
  | allocateArray (signature : String) (length : Int32)
  | pushFrame (thread : ThreadId) (frame : Frame)
  | popFrame (thread : ThreadId)
  | reissueFrames (thread : ThreadId)
  | setField (object : RemoteValue) (name : String) (value : RemoteValue)
  | setStatic (className name : String) (value : RemoteValue)
  | setFrameValue (thread : ThreadId) (frame : FrameId) (slot : LocalSlot) (value : RemoteValue)
  | putElement (array : ArrayHandle) (index : Int32) (value : RemoteValue)
  | putField (receiver : Option RemoteValue) (field : FieldRef) (value : RemoteValue)

/-- The heap after a change, which is the heap before it if the change fails. -/
def attempt (heap : Heap Body) (changed : Except EvalError (Heap Body)) : Heap Body :=
  changed.toOption.getD heap

/-- The heap after a deed. -/
def undergo (heap : Heap Body) : Deed Body → Heap Body
  | .addClass definition => (heap.addClass definition).2
  | .newObject className => (heap.newObject className).2
  | .newString text => (heap.newString text).2
  | .newArray signature elements => (heap.newArray signature elements).2
  | .allocateArray signature length => (heap.allocateArray signature length).2
  | .pushFrame thread frame => (heap.pushFrame thread frame).2
  | .popFrame thread => heap.popFrame thread
  | .reissueFrames thread => heap.reissueFrames thread
  | .setField object name value => heap.setField object name value
  | .setStatic className name value => heap.setStatic className name value
  | .setFrameValue thread frame slot value =>
      heap.attempt (heap.setFrameValue thread frame slot value)
  | .putElement array index value => heap.attempt (heap.putElement array index value)
  | .putField receiver field value => heap.attempt (heap.putField receiver field value)

/-- An id that is drawn, with what it is drawn for; nothing if the creation then fails. -/
abbrev Drawing := UInt64 × Option Referent

/-- The drawing for an array, which fails if the signature is not that of an array. -/
def arrayDrawing (heap : Heap Body) (signature : String) : Drawing :=
  let id := heap.allocate.1
  (id, (ArrayHandle.ofSignature id signature).toOption.map .ofArray)

/-- The ids that a deed draws, the first one first. -/
def draws (heap : Heap Body) : Deed Body → List Drawing
  | .addClass definition => [(heap.allocate.1, some (.ofClass definition.signature))]
  | .newObject className =>
      if heap.classIds.contains className then [(heap.allocate.1, some (.ofObject className))]
      else
        [(heap.allocate.1, some (.ofClass className)),
          (heap.allocate.2.allocate.1, some (.ofObject className))]
  | .newString text => [(heap.allocate.1, some (.ofString text))]
  | .newArray signature _ => [heap.arrayDrawing signature]
  | .allocateArray signature _ =>
      match ArrayHandle.ofSignature 0 signature with
      | .error _ => []
      | .ok _ => [heap.arrayDrawing signature]
  | .pushFrame thread _ => [(heap.allocate.1, some (.ofFrame thread))]
  | .reissueFrames thread =>
      (reissue (heap.frames thread) heap).1.map fun entry => (entry.1, some (.ofFrame thread))
  | .popFrame _ | .setField .. | .setStatic .. | .setFrameValue .. | .putElement .. |
    .putField .. => []

/-- The id that whoever does a deed gets back. -/
def handsBack (heap : Heap Body) : Deed Body → Option UInt64
  | .addClass definition => some (heap.addClass definition).1
  | .newObject className => (heap.newObject className).1.objectId?
  | .newString text => (heap.newString text).1.objectId?
  | .newArray signature elements =>
      (heap.newArray signature elements).1.toOption.bind RemoteValue.objectId?
  | .allocateArray signature length =>
      (heap.allocateArray signature length).1.toOption.bind RemoteValue.objectId?
  | .pushFrame thread frame => some (heap.pushFrame thread frame).1
  | .popFrame _ | .reissueFrames _ | .setField .. | .setStatic .. | .setFrameValue .. |
    .putElement .. | .putField .. => none

/-- The frame ids that a deed makes stale. -/
def dismisses (heap : Heap Body) : Deed Body → List FrameId
  | .popFrame thread => (heap.frameIds thread).take 1
  | .reissueFrames thread => heap.frameIds thread
  | _ => []

/-! ## Stores

A deed that only stores a value draws no id and leaves every id with what it refers to.
-/

/-- A heap that differs at most in stored values. -/
structure Alike (heap after : Heap Body) : Prop where
  lastId : after.lastId = heap.lastId
  classIds : after.classIds = heap.classIds
  classes : after.classes = heap.classes
  strings : after.strings = heap.strings
  objects (id : ObjectId) : (after.objects.find? id).map HeapObject.className =
    (heap.objects.find? id).map HeapObject.className
  arrays (id : ObjectId) : (after.arrays.find? id).map HeapArray.handle =
    (heap.arrays.find? id).map HeapArray.handle
  frameIds (thread : ThreadId) : after.frameIds thread = heap.frameIds thread

variable {heap after : Heap Body}

theorem Alike.refl (heap : Heap Body) : heap.Alike heap :=
  ⟨rfl, rfl, rfl, rfl, fun _ => rfl, fun _ => rfl, fun _ => rfl⟩

theorem Alike.refers_iff
    (alike : heap.Alike after) (id : UInt64) (referent : Referent) :
    after.Refers id referent ↔ heap.Refers id referent := by
  cases referent with
  | ofClass signature => rw [Refers, Refers, alike.classIds, alike.classes]
  | ofObject className => rw [Refers, Refers, alike.objects]
  | ofString text => rw [Refers, Refers, alike.strings]
  | ofArray handle => rw [Refers, Refers, alike.arrays]
  | ofFrame thread => rw [Refers, Refers, alike.frameIds]

theorem alike_objects
    (heap : Heap Body) (id : ObjectId) (change : Table String RemoteValue → Table String RemoteValue) :
    heap.Alike { heap with
      objects := heap.objects.modify id fun object =>
        { object with fields := change object.fields } } :=
  { Alike.refl heap with
    objects := heap.objects.map_find?_modify fun _ => rfl }

theorem alike_setField (object : RemoteValue) (name : String) (value : RemoteValue) :
    heap.Alike (heap.setField object name value) := by
  rw [setField]
  cases object.objectId? with
  | none => exact .refl heap
  | some id => exact heap.alike_objects id fun fields => fields.insert name value

theorem alike_setStatic (className name : String) (value : RemoteValue) :
    heap.Alike (heap.setStatic className name value) := by
  rw [setStatic]
  cases heap.classIds.find? className with
  | none => exact .refl heap
  | some id => exact { Alike.refl heap with }

theorem alike_attempt
    {changed : Except EvalError (Heap Body)}
    (alike : ∀ after, changed = .ok after → heap.Alike after) :
    heap.Alike (heap.attempt changed) := by
  cases changed with
  | error error => exact .refl heap
  | ok after => exact alike after rfl

theorem map_fst_changeFrame
    (id : FrameId) (change : Frame → Frame) (frames : List (FrameId × Frame)) :
    (changeFrame id change frames).map Prod.fst = frames.map Prod.fst := by
  induction frames with
  | nil => rfl
  | cons entry rest ih =>
      rw [changeFrame]
      split
      · rfl
      · rw [List.map_cons, List.map_cons, ih]

theorem frames_insert_self
    (heap : Heap Body) (thread : ThreadId) (frames : List (FrameId × Frame)) :
    Heap.frames { heap with threads := heap.threads.insert thread frames } thread = frames := by
  rw [Heap.frames, Table.find?_insert_self]
  rfl

theorem frames_insert_ne
    (heap : Heap Body) {thread other : ThreadId} (differs : other ≠ thread)
    (frames : List (FrameId × Frame)) :
    Heap.frames { heap with threads := heap.threads.insert thread frames } other =
      heap.frames other := by
  rw [Heap.frames, Table.find?_insert_ne _ _ differs]
  rfl

theorem alike_setFrameValue
    {thread : ThreadId} {frame : FrameId} {slot : LocalSlot} {value : RemoteValue}
    (changed : heap.setFrameValue thread frame slot value = .ok after) : heap.Alike after := by
  rw [setFrameValue] at changed
  cases found : heap.liveFrame thread frame with
  | error error =>
      rw [found] at changed
      cases changed
  | ok live =>
      rw [found] at changed
      cases held : slotValue live slot with
      | error error =>
          simp only [bind, Except.bind, held] at changed
          cases changed
      | ok old =>
          simp only [bind, Except.bind, held] at changed
          cases changed
          refine { Alike.refl heap with frameIds := ?frameIds }
          case frameIds =>
            intro other
            by_cases same : other = thread
            · subst same
              rw [frameIds, frames_insert_self, map_fst_changeFrame]
              rfl
            · rw [frameIds, frames_insert_ne heap same]
              rfl

theorem alike_putElement
    {array : ArrayHandle} {index : Int32} {value : RemoteValue}
    (changed : heap.putElement array index value = .ok after) : heap.Alike after := by
  rw [putElement] at changed
  cases found : heap.arrayElements array with
  | error error =>
      rw [found] at changed
      cases changed
  | ok elements =>
      simp only [found, bind, Except.bind] at changed
      split at changed
      · cases changed
      · cases changed
        exact { Alike.refl heap with
          arrays := heap.arrays.map_find?_modify fun _ => rfl }

theorem alike_putField
    {receiver : Option RemoteValue} {field : FieldRef} {value : RemoteValue}
    (changed : heap.putField receiver field value = .ok after) : heap.Alike after := by
  rw [putField] at changed
  split at changed
  · cases changed
    exact { Alike.refl heap with }
  · split at changed
    · cases changed
    · next id held =>
      split at changed
      · cases changed
        exact heap.alike_objects id fun fields => fields.insert field.name value
      · cases changed

/-- Whether a deed only stores a value. -/
def Deed.stores : Deed Body → Bool
  | .setField .. | .setStatic .. | .setFrameValue .. | .putElement .. | .putField .. => true
  | _ => false

theorem alike_undergo
    {deed : Deed Body} (stores : deed.stores = true) : heap.Alike (heap.undergo deed) := by
  cases deed with
  | setField object name value => exact alike_setField object name value
  | setStatic className name value => exact alike_setStatic className name value
  | setFrameValue => exact alike_attempt fun _ => alike_setFrameValue
  | putElement => exact alike_attempt fun _ => alike_putElement
  | putField => exact alike_attempt fun _ => alike_putField
  | _ => cases stores

theorem draws_of_stores
    (heap : Heap Body) {deed : Deed Body} (stores : deed.stores = true) : heap.draws deed = [] := by
  cases deed with
  | setField | setStatic | setFrameValue | putElement | putField => rfl
  | _ => cases stores

/-! ## Creations -/

/-- Frames with new ids get those that follow, and nothing else changes but the counter. -/
theorem reissue_eq
    (frames : List (FrameId × Frame)) (heap : Heap Body) :
    (reissue frames heap).1.map Prod.fst = following heap.lastId frames.length ∧
      (reissue frames heap).2 = { heap with lastId := heap.lastId + .ofNat frames.length } := by
  induction frames generalizing heap with
  | nil => exact ⟨rfl, by simp [reissue]⟩
  | cons entry rest ih =>
      obtain ⟨ids, after⟩ := ih heap.allocate.2
      rw [reissue]
      dsimp only
      rw [List.map_cons, ids, after, List.length_cons, following_succ]
      refine ⟨rfl, ?_⟩
      simp only [allocate, Nat.add_comm rest.length 1, UInt64.ofNat_add, UInt64.add_assoc]
      rfl

theorem newArray_cases (heap : Heap Body) (signature : String) (elements : List RemoteValue) :
    (∃ error, ArrayHandle.ofSignature heap.allocate.1 signature = .error error ∧
      heap.newArray signature elements = (.error error, heap.allocate.2)) ∨
    ∃ handle, ArrayHandle.ofSignature heap.allocate.1 signature = .ok handle ∧
      heap.newArray signature elements =
        (.ok (.array handle),
          { heap.allocate.2 with
            arrays := heap.arrays.insert heap.allocate.1 ⟨handle, elements⟩ }) := by
  rw [newArray]
  dsimp only
  cases read : ArrayHandle.ofSignature heap.allocate.1 signature with
  | error error => exact .inl ⟨error, rfl, rfl⟩
  | ok handle => exact .inr ⟨handle, rfl, rfl⟩

/-- An array of a given length either is refused at once or is created like any other. -/
theorem allocateArray_cases (heap : Heap Body) (signature : String) (length : Int32) :
    (heap.draws (.allocateArray signature length) = [] ∧
      ∃ error, heap.allocateArray signature length = (.error error, heap)) ∨
    ∃ elements,
      heap.draws (.allocateArray signature length) =
        heap.draws (.newArray signature elements) ∧
      heap.allocateArray signature length = heap.newArray signature elements := by
  rw [draws, allocateArray]
  cases ArrayHandle.ofSignature 0 signature with
  | error error => exact .inl ⟨rfl, error, rfl⟩
  | ok handle => exact .inr ⟨_, rfl, rfl⟩

/-- The heap in which a class is loaded, without members if it was not. -/
def loading (heap : Heap Body) (className : String) : Heap Body :=
  if heap.classIds.contains className then heap else (heap.addClass (.bare className)).2

/-- A heap with one more object. -/
def withObject (heap : Heap Body) (object : HeapObject) : Heap Body :=
  { heap.allocate.2 with objects := heap.objects.insert heap.allocate.1 object }

theorem newObject_eq (heap : Heap Body) (className : String) :
    heap.newObject className =
      (.object (.plain (heap.loading className).allocate.1),
        (heap.loading className).withObject
          ⟨className, (heap.loading className).initialFields className⟩) :=
  rfl

/-! ## The ids that a deed draws -/

theorem lastId_newArray (heap : Heap Body) (signature : String) (elements : List RemoteValue) :
    (heap.newArray signature elements).2.lastId = heap.lastId + 1 := by
  obtain ⟨error, -, created⟩ | ⟨handle, -, created⟩ := heap.newArray_cases signature elements
  · rw [created]
    rfl
  · rw [created]
    rfl

theorem lastId_reissueFrames (heap : Heap Body) (thread : ThreadId) :
    (heap.reissueFrames thread).lastId =
      heap.lastId + .ofNat (heap.frames thread).length := by
  rw [reissueFrames, Heap.frames]
  cases heap.threads.find? thread with
  | none => exact (UInt64.add_zero _).symm
  | some frames => exact congrArg Heap.lastId (reissue_eq frames heap).2

/-- The ids that a deed draws are those that follow, and the counter then shows the last one. -/
theorem draws_following (heap : Heap Body) (deed : Deed Body) :
    (heap.draws deed).map Prod.fst = following heap.lastId (heap.draws deed).length ∧
      (heap.undergo deed).lastId = heap.lastId + .ofNat (heap.draws deed).length := by
  by_cases stores : deed.stores = true
  · rw [heap.draws_of_stores stores, (alike_undergo stores).lastId]
    exact ⟨rfl, (UInt64.add_zero _).symm⟩
  cases deed with
  | addClass | newString | pushFrame => exact ⟨rfl, rfl⟩
  | newObject className =>
      rw [draws, undergo, newObject_eq, loading]
      split
      · exact ⟨rfl, rfl⟩
      · exact ⟨(following_succ heap.lastId 1).symm, UInt64.add_assoc heap.lastId 1 1⟩
  | newArray signature elements => exact ⟨rfl, heap.lastId_newArray signature elements⟩
  | allocateArray signature length =>
      rw [undergo]
      obtain ⟨none, error, refused⟩ | ⟨elements, same, created⟩ :=
        heap.allocateArray_cases signature length
      · rw [none, refused]
        exact ⟨rfl, (UInt64.add_zero _).symm⟩
      · rw [same, created]
        exact ⟨rfl, heap.lastId_newArray signature elements⟩
  | popFrame thread => exact ⟨rfl, (UInt64.add_zero _).symm⟩
  | reissueFrames thread =>
      obtain ⟨ids, -⟩ := reissue_eq (heap.frames thread) heap
      have count : (heap.draws (.reissueFrames thread)).length = (heap.frames thread).length := by
        rw [draws, List.length_map, ← List.length_map Prod.fst, ids, length_following]
      rw [count]
      refine ⟨?_, heap.lastId_reissueFrames thread⟩
      rw [draws, List.map_map]
      exact ids
  | _ => exact (stores rfl).elim

end Heap

end FrameEval
