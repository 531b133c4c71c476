import FrameEval.Proofs.Remote.Mirror
import FrameEval.Proofs.Wire.Members

/-!
# The target that is like a heap

For a heap whose texts and lists can be sent there is a target that mirrors it: it looks up in the
heap whatever it is asked about types and keeps the ids of the heap.
-/

namespace FrameEval

open Wire

variable {Body : Type}

/-- The modifiers of a member that is static or not. -/
def Wire.modifiersOf (isStatic : Bool) : Int32 :=
  if isStatic then staticBit.toInt32 else 0

/-- A field in the form in which a target declares it. -/
def FieldRef.info (field : FieldRef) : FieldInfo :=
  ⟨field.id, field.name, field.signature, modifiersOf field.isStatic⟩

/-- A method in the form in which a target declares it. -/
def MethodRef.info (method : MethodRef) : MethodInfo :=
  ⟨method.id, method.name, method.signature, modifiersOf method.isStatic⟩

/-- Every id stays as it is. -/
def Naming.same : Naming where
  type id := id
  field _ id := id
  method _ id := id
  type_injective := Function.injective_id
  field_injective _ := Function.injective_id
  method_injective _ := Function.injective_id

theorem isStaticModifier_modifiersOf (isStatic : Bool) :
    isStaticModifier (modifiersOf isStatic) = isStatic := by
  cases isStatic <;> decide

/-- A field is found as it was declared. -/
theorem FieldRef.of_info (field : FieldRef) :
    FieldRef.of field.declaringType field.info = Naming.same.fieldRef field := by
  rw [FieldRef.of, FieldInfo.isStatic, FieldRef.info, isStaticModifier_modifiersOf]
  rfl

/-- A method is found as it was declared. -/
theorem MethodRef.of_info (method : MethodRef) :
    MethodRef.of method.declaringType method.info = Naming.same.methodRef method := by
  rw [MethodRef.of, MethodInfo.isStatic, MethodRef.info, isStaticModifier_modifiersOf]
  rfl

theorem map_of_info_fieldRefs (definition : ClassDefinition Body) (id : TypeId) :
    ((definition.fieldRefs id).map FieldRef.info).map (FieldRef.of id) =
      (definition.fieldRefs id).map Naming.same.fieldRef := by
  rw [ClassDefinition.fieldRefs, List.map_map, List.map_map, List.map_map]
  apply List.map_congr_left
  intro entry _
  exact FieldRef.of_info (FieldDefinition.ref id (entry.2, entry.1))

theorem map_of_info_methodRefs (definition : ClassDefinition Body) (id : TypeId) :
    ((definition.methodRefs id).map MethodRef.info).map (MethodRef.of id) =
      (definition.methodRefs id).map Naming.same.methodRef := by
  rw [ClassDefinition.methodRefs, List.map_map, List.map_map, List.map_map]
  apply List.map_congr_left
  intro entry _
  exact MethodRef.of_info (MethodDefinition.ref id (entry.2, entry.1))

/-- A class whose texts and lists are not too long to be sent. -/
structure ClassDefinition.Sendable (definition : ClassDefinition Body) : Prop where
  signature : Reader.Short definition.signature
  fieldCount : definition.fields.length < 2 ^ 31
  fields : ∀ field ∈ definition.fields, Reader.Short field.name ∧ Reader.Short field.signature
  methodCount : definition.methods.length < 2 ^ 31
  methods : ∀ method ∈ definition.methods,
    Reader.Short method.name ∧ Reader.Short method.signature

instance (definition : ClassDefinition Body) : Decidable definition.Sendable :=
  decidable_of_iff
    (Reader.Short definition.signature ∧ definition.fields.length < 2 ^ 31 ∧
      (∀ field ∈ definition.fields, Reader.Short field.name ∧ Reader.Short field.signature) ∧
      definition.methods.length < 2 ^ 31 ∧
      ∀ method ∈ definition.methods, Reader.Short method.name ∧ Reader.Short method.signature)
    ⟨fun ⟨signature, fieldCount, fields, methodCount, methods⟩ =>
        ⟨signature, fieldCount, fields, methodCount, methods⟩,
      fun sendable => ⟨sendable.signature, sendable.fieldCount, sendable.fields,
        sendable.methodCount, sendable.methods⟩⟩

namespace ClassDefinition.Sendable

variable {definition : ClassDefinition Body}

theorem reads_fields (sendable : definition.Sendable) (id : TypeId) :
    (Reader.counted Reader.fieldInfo).Reads
      (Writer.counted Writer.fieldInfo ((definition.fieldRefs id).map FieldRef.info))
      ((definition.fieldRefs id).map FieldRef.info) := by
  apply Reader.reads_counted
  · rw [ClassDefinition.fieldRefs, List.length_map, List.length_map, List.length_zipIdx]
    exact sendable.fieldCount
  · intro info member
    rcases List.mem_map.1 member with ⟨ref, isRef, rfl⟩
    rcases List.mem_map.1 isRef with ⟨⟨field, index⟩, place, rfl⟩
    rcases sendable.fields field (List.fst_mem_of_mem_zipIdx place) with ⟨name, signature⟩
    exact Reader.reads_fieldInfo name signature

theorem reads_methods (sendable : definition.Sendable) (id : TypeId) :
    (Reader.counted Reader.methodInfo).Reads
      (Writer.counted Writer.methodInfo ((definition.methodRefs id).map MethodRef.info))
      ((definition.methodRefs id).map MethodRef.info) := by
  apply Reader.reads_counted
  · rw [ClassDefinition.methodRefs, List.length_map, List.length_map, List.length_zipIdx]
    exact sendable.methodCount
  · intro info member
    rcases List.mem_map.1 member with ⟨ref, isRef, rfl⟩
    rcases List.mem_map.1 isRef with ⟨⟨method, index⟩, place, rfl⟩
    rcases sendable.methods method (List.fst_mem_of_mem_zipIdx place) with ⟨name, signature⟩
    exact Reader.reads_methodInfo name signature

end ClassDefinition.Sendable

namespace Heap

variable {heap : Heap Body}

/-! ## What is looked up -/

/-- The loaded class that a text on the wire names. -/
def classNamed? (heap : Heap Body) (data : Bytes) : Option ClassInfo :=
  heap.classIds.keys.findSome? fun signature =>
    if Writer.text signature = data then
      (heap.class? signature).toOption.map fun found =>
        ⟨Remote.classTag, found.1, signature, 0⟩
    else none

/-- The id that a word on the wire is. -/
def idOf (data : Bytes) : UInt64 :=
  UInt64.ofNat (ofBigEndian data)

/-- The loaded class whose id a word on the wire is. -/
def typeOf? (heap : Heap Body) (data : Bytes) : Option (TypeId × ClassDefinition Body) :=
  (heap.classes.find? (idOf data)).map fun definition => (idOf data, definition)

/-- The superclass of a class, or zero if it has none. -/
def superclassId (heap : Heap Body) (definition : ClassDefinition Body) : TypeId :=
  match definition.superclass.bind fun signature => (heap.class? signature).toOption with
  | some found => found.1
  | none => 0

/-- The class of an object. -/
def classOf? (heap : Heap Body) (object : ObjectId) : Option (TypeId × ClassDefinition Body) := do
  let signature ← (heap.runtimeClass (.object (.plain object))).toOption
  (heap.class? signature).toOption

/-- What a target with the classes of a heap replies, unless it refuses. -/
def replies? (heap : Heap Body) (order : Order) : Option Bytes :=
  match order.commandSet.toNat, order.command.toNat with
  | 1, 2 => some (Writer.counted Writer.classInfo (heap.classNamed? order.data).toList)
  | 2, 1 => (heap.typeOf? order.data).map fun entry => Writer.text entry.2.signature
  | 2, 4 => (heap.typeOf? order.data).map fun entry =>
      Writer.counted Writer.fieldInfo ((entry.2.fieldRefs entry.1).map FieldRef.info)
  | 2, 5 => (heap.typeOf? order.data).map fun entry =>
      Writer.counted Writer.methodInfo ((entry.2.methodRefs entry.1).map MethodRef.info)
  | 2, 10 => (heap.typeOf? order.data).map fun _ => Writer.counted Writer.uint64 []
  | 3, 1 => (heap.typeOf? order.data).map fun entry => Writer.uint64 (heap.superclassId entry.2)
  | 9, 1 => (heap.classOf? (idOf order.data)).map fun entry =>
      Writer.uint8 Remote.classTag ++ Writer.uint64 entry.1
  | _, _ => none

/-- A target with the classes of a heap; it refuses whatever else it is asked. -/
def target (heap : Heap Body) : Remote.Surroundings Unit where
  send order _ :=
    (.ok (match heap.replies? order with
      | some data => ⟨0, 0, data⟩
      | none => ⟨0, ErrorCode.invalidObject, []⟩), ())
  enter _ _ := ()
  leave _ _ := ()

/-- A heap whose classes can be sent; zero is the id of none. -/
def Sendable (heap : Heap Body) : Prop :=
  ∀ id definition, heap.classes.find? id = some definition → id ≠ 0 ∧ definition.Sendable

/-- It is enough to look at the loaded classes one by one. -/
theorem sendable_of_bindings
    (each : ∀ binding ∈ heap.classes.bindings, binding.1 ≠ 0 ∧ binding.2.Sendable) :
    heap.Sendable :=
  fun id definition found => each (id, definition) (Table.mem_bindings_of_find? found)

theorem idOf_uint64 (id : UInt64) : idOf (Writer.uint64 id) = id := by
  rw [idOf, Writer.uint64, ofBigEndian_bigEndian, Nat.mod_eq_of_lt id.toNat_lt, UInt64.ofNat_toNat]

theorem text_injective {first second : String} (same : Writer.text first = Writer.text second) :
    first = second := by
  have lengths : (Writer.count (encodeText first).length).length =
      (Writer.count (encodeText second).length).length := by
    rw [Writer.count, Writer.count, length_bigEndian, length_bigEndian]
  have encoded : encodeText first = encodeText second := (List.append_inj same lengths).2
  have decoded := congrArg decodeText? encoded
  rw [decodeText?_encodeText, decodeText?_encodeText] at decoded
  exact Option.some.inj decoded

/-- A text names the class of that signature and no other. -/
theorem classNamed?_text (heap : Heap Body) (signature : String) :
    heap.classNamed? (Writer.text signature) =
      (heap.class? signature).toOption.map fun found =>
        ⟨Remote.classTag, found.1, signature, 0⟩ := by
  cases loaded : heap.class? signature with
  | error error =>
      apply List.findSome?_eq_none_iff.2
      intro other _
      split
      · next same =>
          rw [text_injective same, loaded]
          rfl
      · rfl
  | ok found =>
      rcases List.eq_append_cons_of_mem (mem_keys_of_class? loaded) with
        ⟨before, later, keys, first⟩
      apply List.findSome?_eq_some_iff.2
      refine ⟨before, signature, later, keys, ?_, ?_⟩
      · rw [if_pos rfl, loaded]
        rfl
      · intro other member
        apply if_neg
        intro same
        rw [text_injective same] at member
        exact first member

theorem told_of_replies?
    {α : Type} {call : Call α} {data : Bytes} {value : α}
    (replies : heap.replies? call.order = some data) (reads : call.answer.Reads data value)
    (state : Unit) : heap.target.told call state = .ok value := by
  show Call.conclude call (match heap.replies? call.order with | some data => _ | none => _) = _
  rw [replies]
  exact Call.conclude_of_reads reads 0

theorem told_of_refuses
    {α : Type} {call : Call α} (refuses : heap.replies? call.order = none) (state : Unit) :
    heap.target.told call state = .error (.refused ErrorCode.invalidObject) := by
  show Call.conclude call (match heap.replies? call.order with | some data => _ | none => _) = _
  rw [refuses]
  rfl

/-! ## What the target says -/

theorem class?_eq_ok
    {signature : String} {found : TypeId × ClassDefinition Body}
    (loaded : heap.class? signature = .ok found) : heap.classes.find? found.1 = some found.2 := by
  rw [class?] at loaded
  split at loaded
  · cases loaded
  · split at loaded
    · cases loaded
    · next known =>
        cases loaded
        exact known

theorem typeOf?_uint64
    {signature : String} {found : TypeId × ClassDefinition Body}
    (loaded : heap.class? signature = .ok found) :
    heap.typeOf? (Writer.uint64 found.1) = some found := by
  rw [typeOf?, idOf_uint64, class?_eq_ok loaded]
  rfl

/-- What is said of a loaded class. -/
theorem told_of_class?
    {α : Type} {call : Call α} {write : TypeId × ClassDefinition Body → Bytes} {value : α}
    {signature : String} {found : TypeId × ClassDefinition Body}
    (loaded : heap.class? signature = .ok found)
    (replies : heap.replies? call.order = (heap.typeOf? (Writer.uint64 found.1)).map write)
    (reads : call.answer.Reads (write found) value) :
    heap.target.told call () = .ok value := by
  rw [typeOf?_uint64 loaded] at replies
  exact told_of_replies? replies reads ()

/-- A lookup by signature finds the loaded class or nothing. -/
theorem told_classesBySignature (heap : Heap Body) (signature : String) (state : Unit) :
    heap.target.told (Call.classesBySignature signature) state =
      .ok ((heap.class? signature).toOption.map fun found =>
        (⟨Remote.classTag, found.1, signature, 0⟩ : ClassInfo)).toList := by
  have replies : heap.replies? (Call.classesBySignature signature).order =
      some (Writer.counted Writer.classInfo (heap.classNamed? (Writer.text signature)).toList) :=
    rfl
  rw [classNamed?_text] at replies
  apply told_of_replies? replies
  apply Reader.reads_counted
  · cases heap.class? signature <;> simp [Except.toOption]
  · intro entry member
    rcases Option.map_eq_some_iff.1 (Option.mem_toList.1 member) with ⟨found, -, rfl⟩
    exact Reader.reads_classInfo _

theorem told_objectType
    {object : ObjectId} {found : TypeId × ClassDefinition Body}
    (held : heap.classOf? object = some found) (state : Unit) :
    heap.target.told (Call.objectType object) state = .ok (Remote.classTag, found.1) := by
  have replies : heap.replies? (Call.objectType object).order =
      (heap.classOf? (idOf (Writer.uint64 object))).map _ := rfl
  rw [idOf_uint64, held] at replies
  exact told_of_replies? replies (Reader.reads_typeReference _ _) state

theorem told_objectType_of_unheld
    {object : ObjectId} (unheld : heap.classOf? object = none) (state : Unit) :
    heap.target.told (Call.objectType object) state =
      .error (.refused ErrorCode.invalidObject) := by
  have replies : heap.replies? (Call.objectType object).order =
      (heap.classOf? (idOf (Writer.uint64 object))).map _ := rfl
  rw [idOf_uint64, unheld] at replies
  exact told_of_refuses replies state

theorem interfaces_of_told
    {id : TypeId} {interfaces : List TypeId} {state : Unit}
    (told : heap.target.told (Call.interfaces id) state = .ok interfaces) : interfaces = [] := by
  cases replies : heap.replies? (Call.interfaces id).order with
  | some data =>
      have empty : data = Writer.counted Writer.uint64 [] := by
        rcases Option.map_eq_some_iff.1 replies with ⟨entry, -, same⟩
        exact same.symm
      rw [empty] at replies
      rw [told_of_replies? replies (Reader.reads_counted (by decide) nofun)] at told
      cases told
      rfl
  | none =>
      rw [told_of_refuses replies] at told
      cases told

/-! ## The target mirrors the heap -/

theorem target_declares (heap : Heap Body) :
    heap.target.Declares (heap.target.classDeclarations ()) := by
  apply Remote.Surroundings.declares_classDeclarations
  · intro α call state
    rfl
  · intro signature found told entry member
    rw [told_classesBySignature] at told
    cases told
    rcases Option.map_eq_some_iff.1 (Option.mem_toList.1 member) with ⟨found, -, rfl⟩
    rfl
  · intro object tag id told
    cases held : heap.classOf? object with
    | some found =>
        rw [told_objectType held] at told
        cases told
        rfl
    | none =>
        rw [told_objectType_of_unheld held] at told
        cases told
  · intro id interfaces told
    exact interfaces_of_told told

/-- What is learned of a class. -/
def learned (heap : Heap Body) (entry : TypeId × ClassDefinition Body) : Remote.TypeMetadata where
  signature := entry.2.signature
  superclass := if heap.superclassId entry.2 = 0 then none else some (heap.superclassId entry.2)
  interfaces := []
  fields := (entry.2.fieldRefs entry.1).map FieldRef.info
  methods := (entry.2.methodRefs entry.1).map MethodRef.info

theorem target_declared
    (sendable : heap.Sendable) {signature : String} {found : TypeId × ClassDefinition Body}
    (loaded : heap.class? signature = .ok found) :
    (heap.target.classDeclarations ()).declared found.1 = .ok (heap.learned found) := by
  rcases sendable found.1 found.2 (class?_eq_ok loaded) with ⟨-, short⟩
  have signature : heap.target.told (Call.typeSignature found.1) () = .ok found.2.signature :=
    told_of_class? loaded rfl (Reader.reads_text short.signature)
  have superclass : heap.target.told (Call.superclass found.1) () =
      .ok (if heap.superclassId found.2 = 0 then none else some (heap.superclassId found.2)) :=
    told_of_class? loaded rfl (Reader.reads_superclass _)
  have interfaces : heap.target.told (Call.interfaces found.1) () = .ok [] :=
    told_of_class? loaded rfl (Reader.reads_counted (by decide) nofun)
  have fields : heap.target.told (Call.fields found.1) () =
      .ok ((found.2.fieldRefs found.1).map FieldRef.info) :=
    told_of_class? loaded rfl (short.reads_fields found.1)
  have methods : heap.target.told (Call.methods found.1) () =
      .ok ((found.2.methodRefs found.1).map MethodRef.info) :=
    told_of_class? loaded rfl (short.reads_methods found.1)
  have whole : (heap.target.classDeclarations ()).load
      ((heap.target.classDeclarations ()).handle found.1) = .ok (heap.learned found) :=
    (Remote.Declarations.load_eq_ok_iff _ _ _).2
      ⟨signature, superclass, interfaces, fields, methods⟩
  rw [Remote.Declarations.declared, whole]
  rfl

/-- What is learned of a class describes it. -/
theorem describes_learned
    (sendable : heap.Sendable) (entry : TypeId × ClassDefinition Body) :
    Naming.same.Describes heap entry (heap.learned entry) where
  signature := rfl
  root := by
    intro top
    have none : heap.superclassId entry.2 = 0 := by
      rw [superclassId, top]
      rfl
    exact if_pos none
  derived := by
    intro superclass found below loaded
    have one : heap.superclassId entry.2 = found.1 := by
      rw [superclassId, below, Option.bind_some, loaded]
      rfl
    have nonzero := (sendable found.1 found.2 (class?_eq_ok loaded)).1
    rw [learned, one, if_neg nonzero]
    rfl
  interfaces := rfl
  fields := map_of_info_fieldRefs entry.2 entry.1
  methods := map_of_info_methodRefs entry.2 entry.1

/-- The target of a heap mirrors it. -/
theorem target_mirrors (sendable : heap.Sendable) :
    Remote.Mirrors heap.target (heap.target.classDeclarations ()) Naming.same heap where
  declares := target_declares heap
  loaded := by
    intro signature found loaded
    refine ⟨0, fun state => ?_⟩
    rw [told_classesBySignature, loaded]
    rfl
  unloaded := by
    intro signature error unloaded state
    rw [told_classesBySignature, unloaded]
    rfl
  kind _ _ _ := rfl
  described _ found loaded :=
    ⟨heap.learned found, target_declared sendable loaded, describes_learned sendable found⟩
  object := by
    intro handle signature found runtime loaded state
    have held : heap.classOf? handle.id = some found := by
      have same : heap.runtimeClass (.object (.plain handle.id)) = .ok signature := runtime
      rw [classOf?, same]
      show (heap.class? signature).toOption = _
      rw [loaded]
      rfl
    exact told_objectType held state
  stale := by
    intro handle error runtime _
    have unheld : heap.classOf? handle.id = none := by
      have same : heap.runtimeClass (.object (.plain handle.id)) = .error error := runtime
      rw [classOf?, same]
      rfl
    exact ⟨_, told_objectType_of_unheld unheld⟩

end Heap

end FrameEval
