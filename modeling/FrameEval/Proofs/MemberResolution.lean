import FrameEval.Proofs.Remote.Likeness
import FrameEval.World.Answer

/-!
# Two ways to find a member

A world in memory and a target at the other end of a link look for members each in its own way.
Where the target mirrors the heap of the world, an operation that looks for a method or for a
field of an object succeeds on both sides or on neither, and then finds the same member of the
same class.

There are two exceptions, by design of the world.  An array has no fields there, while the target
offers it those of the root class.  And a static field is the nearest field of its name, which
must be static, while the target passes over instance fields on its way up; so what the world finds
the target finds, but not the other way round.
-/

namespace FrameEval

open Wire

namespace Heap

variable {Body : Type}

/-- Superclasses are loaded up to the ends of their chains, and objects are of loaded classes. -/
structure Complete (heap : Heap Body) : Prop where
  grounded : heap.Grounded
  objects : ∀ handle signature, heap.runtimeClass (.object handle) = .ok signature →
    Signature.isArray signature = false ∧ ∃ found, heap.class? signature = .ok found

/-- Whether a value is an array that is there, or no array at all. -/
def IsGenuine (heap : Heap Body) : RemoteValue → Prop
  | .object handle => heap.arrays.find? handle.id = none
  | .array handle => (heap.arrays.find? handle.id).isSome
  | _ => True

/-- The nearest field of a name, if it is static, is the nearest static field of the name. -/
theorem nearestField_static
    {name : String} {classes : List (TypeId × ClassDefinition Body)} {field : FieldRef}
    (nearest : nearestField (FieldRef.isWanted name none) classes = some field)
    (static : field.isStatic = true) :
    nearestField (FieldRef.isWanted name (some true)) classes = some field := by
  rw [nearestField, ← List.find?_flatMap, List.find?_eq_some_iff_append] at nearest ⊢
  rcases nearest with ⟨named, before, after, whole, others⟩
  refine ⟨?_, before, after, whole, ?_⟩
  · simp only [FieldRef.isWanted] at named ⊢
    simp_all
  · intro other member
    have unnamed := others other member
    simp only [FieldRef.isWanted] at unnamed ⊢
    simp_all

theorem nearestField_static_of_none
    {name : String} {classes : List (TypeId × ClassDefinition Body)}
    (none : nearestField (FieldRef.isWanted name none) classes = none) :
    nearestField (FieldRef.isWanted name (some true)) classes = Option.none := by
  rw [nearestField, ← List.find?_flatMap, List.find?_eq_none] at none ⊢
  intro field member
  have unnamed := none field member
  simp only [FieldRef.isWanted] at unnamed ⊢
  simp_all

theorem eq_ok_of_toOption
    {ε α : Type} {result : Except ε α} {value : α} (same : result.toOption = some value) :
    result = .ok value := by
  cases result with
  | ok other =>
      cases same
      rfl
  | error error => cases same

theorem nearestMethod_singleton
    (wanted : MethodRef → Option Bool) (entry : TypeId × ClassDefinition Body) :
    nearestMethod wanted [entry] = ((entry.2.methodRefs entry.1).findM? wanted).join := by
  rw [nearestMethod, List.flatMap_singleton]

/-- The class of an array, and no other, is an array type. -/
theorem exists_array_of_runtimeClass
    {heap : Heap Body} (complete : heap.Complete) {receiver : RemoteValue} {className : String}
    (runtime : heap.runtimeClass receiver = .ok className)
    (array : Signature.isArray className = true) : ∃ handle, receiver = .array handle := by
  cases receiver with
  | object handle =>
      have scalar := (complete.objects handle className runtime).1
      rw [array] at scalar
      cases scalar
  | array handle => exact ⟨handle, rfl⟩
  | null | primitive | void => cases runtime

/-- A static field that is found is the nearest static field of its name. -/
theorem nearestStatic_of_staticField
    {heap : Heap Body} {className name : String} {field : FieldRef}
    (found : heap.staticField className name = .ok field) :
    (heap.lineage className).toOption.bind
      (nearestField (FieldRef.isWanted name (some true))) = some field := by
  have filtered := congrArg Except.toOption found
  rw [toOption_staticField] at filtered
  cases lineage : (heap.lineage className).toOption with
  | none =>
      rw [lineage] at filtered
      cases filtered
  | some classes =>
      rw [lineage, Option.bind_some] at filtered
      rcases Option.filter_eq_some_iff.1 filtered with ⟨nearest, static⟩
      exact nearestField_static nearest static

/-- Unless an instance field hides it, the nearest static field is found. -/
theorem toOption_staticField_of_open
    {heap : Heap Body} {className name : String}
    (unhidden : ∀ field, heap.findField className name = .ok field → field.isStatic = true) :
    (heap.staticField className name).toOption =
      (heap.lineage className).toOption.bind
        (nearestField (FieldRef.isWanted name (some true))) := by
  have looked := heap.toOption_findField className name
  rw [toOption_staticField]
  cases lineage : (heap.lineage className).toOption with
  | none => rfl
  | some classes =>
      rw [lineage, Option.bind_some] at looked
      rw [Option.bind_some, Option.bind_some]
      cases nearest : nearestField (FieldRef.isWanted name none) classes with
      | none => exact (nearestField_static_of_none nearest).symm
      | some field =>
          rw [nearest] at looked
          have static := unhidden field (eq_ok_of_toOption looked)
          rw [nearestField_static nearest static, Option.filter_some_pos static]

/-- Constructors are the instance methods of their name, unless a static method has it too. -/
theorem findM?_isConstructor?
    {definition : ClassDefinition Body} {selector : MethodSelector}
    (named : selector.name = Remote.TypeMetadata.constructorName)
    (lawful : ∀ method ∈ definition.methods,
      method.name = Remote.TypeMetadata.constructorName → method.isStatic = false)
    (id : TypeId) :
    (definition.methodRefs id).findM? (MethodRef.isConstructor? selector) =
      (definition.methodRefs id).findM? (MethodRef.isWanted? selector false) := by
  apply findM?_congr
  intro ref member
  rcases List.mem_map.1 member with ⟨⟨method, index⟩, place, rfl⟩
  have lawful := lawful method (List.fst_mem_of_mem_zipIdx place)
  by_cases isConstructor : method.name = Remote.TypeMetadata.constructorName
  · simp [MethodRef.isConstructor?, MethodRef.isWanted?, MethodSelector.selectsAmong?,
      MethodDefinition.ref, isConstructor, lawful isConstructor]
  · simp [MethodRef.isConstructor?, MethodRef.isWanted?, MethodSelector.selectsAmong?,
      MethodDefinition.ref, isConstructor, MethodSelector.selects?, named]

end Heap

namespace Remote

variable {State Body α β : Type} {link : Surroundings State} {declarations : Declarations}
  {naming : Naming} {heap : Heap Body}

/-! ## Where a search starts -/

/-- A search that starts at a class of some signature. -/
theorem alike_ofSignature
    (mirrors : Mirrors link declarations naming heap) (grounded : heap.Grounded)
    {rename : α → β} {near : List (TypeId × ClassDefinition Body) → Option α}
    {search : TypeHandle → Errand β} (className : String)
    (along : ∀ found classes, heap.class? className = .ok found →
      heap.Ascent className classes →
        Alike link declarations rename (near classes)
          (search (.ofClass (naming.type found.1)))) :
    Alike link declarations rename ((heap.lineage className).toOption.bind near)
      (Errand.typeOfSignature className >>= search) := by
  cases loaded : heap.class? className with
  | ok found =>
      rcases grounded className found loaded with ⟨classes, ascent⟩
      rw [ascent.lineage_eq]
      exact Alike.after (mirrors.settles_typeOfSignature loaded) (along found classes loaded ascent)
  | error error =>
      rw [Heap.lineage_of_unloaded loaded]
      rcases mirrors.settles_typeOfSignature_of_unloaded loaded with ⟨halt, settles⟩
      exact Alike.after_error settles

/-- A search that starts at the class of a receiver; that of an array is the root class. -/
theorem alike_ofReceiver
    (mirrors : Mirrors link declarations naming heap) (complete : heap.Complete)
    {rename : α → β} {near : List (TypeId × ClassDefinition Body) → Option α}
    {search : TypeHandle → Errand β} {receiver : RemoteValue} (genuine : heap.IsGenuine receiver)
    (along : ∀ className found classes, heap.class? className = .ok found →
      heap.Ascent className classes →
        Alike link declarations rename (near classes)
          (search (.ofClass (naming.type found.1)))) :
    Alike link declarations rename
      ((heap.methodClass receiver).toOption.bind fun className =>
        (heap.lineage className).toOption.bind near)
      (Errand.memberHolder receiver >>= search) := by
  cases receiver with
  | object handle =>
      cases runtime : heap.runtimeClass (.object handle) with
      | ok className =>
          rcases complete.objects handle className runtime with ⟨scalar, found, loaded⟩
          rcases complete.grounded className found loaded with ⟨classes, ascent⟩
          have typed : Settles link declarations (Errand.memberHolder (.object handle))
              (.ok (.ofClass (naming.type found.1))) :=
            (Settles.call (mirrors.object _ _ _ runtime loaded)).bind (Settles.pure _)
          have start : heap.methodClass (.object handle) = .ok className := by
            rw [Heap.methodClass, runtime]
            show Except.ok (if Signature.isArray className then _ else className) = _
            rw [if_neg (by simp [scalar])]
          rw [start]
          show Alike link declarations rename ((heap.lineage className).toOption.bind near) _
          rw [ascent.lineage_eq]
          exact Alike.after typed (along className found classes loaded ascent)
      | error error =>
          rcases mirrors.stale _ _ runtime genuine with ⟨reason, told⟩
          have untyped : Settles link declarations (Errand.memberHolder (.object handle))
              (.error (.failed reason.toEvalError)) :=
            (Settles.call told).bind_error
          rw [Heap.methodClass, runtime]
          exact Alike.after_error untyped
  | array handle =>
      rcases Option.isSome_iff_exists.1 genuine with ⟨array, held⟩
      have start : heap.methodClass (.array handle) = .ok Signature.objectClass := by
        simp only [Heap.methodClass, Heap.runtimeClass, held]
        show Except.ok (if Signature.isArray array.handle.signature then _ else _) = _
        rw [if_pos (by simp [ArrayHandle.signature, Signature.isArray])]
      rw [start]
      exact alike_ofSignature mirrors complete.grounded Signature.objectClass fun found classes =>
        along Signature.objectClass found classes
  | null | primitive | void => exact Alike.after_error (Settles.fail _)

/-! ## Operations -/

section

variable {usage : Usage}

theorem alike_instanceMethod
    (mirrors : Mirrors link declarations naming heap) (complete : heap.Complete)
    (enough : heap.classIds.size ≤ usage.searchLimit)
    {receiver : RemoteValue} (genuine : heap.IsGenuine receiver) (selector : MethodSelector) :
    Alike link declarations naming.methodRef
      (do
        let className ← (heap.methodClass receiver).mapError Halt.failed
        heap.findMethod className selector false true).toOption
      (answer usage (.instanceMethod receiver selector)) := by
  rw [Heap.toOption_bind, Heap.toOption_mapError]
  simp only [Heap.toOption_findMethod]
  apply alike_ofReceiver mirrors complete genuine
  intro className found classes loaded ascent
  exact alike_methodFrom mirrors ascent loaded selector false usage.searchLimit
    (Nat.le_trans ascent.length_le enough) ""

theorem alike_staticMethod
    (mirrors : Mirrors link declarations naming heap) (grounded : heap.Grounded)
    (enough : heap.classIds.size ≤ usage.searchLimit)
    (className : String) (selector : MethodSelector) :
    Alike link declarations naming.methodRef
      (heap.findMethod className selector true true).toOption
      (answer usage (.staticMethod className selector)) := by
  rw [Heap.toOption_findMethod]
  apply alike_ofSignature mirrors grounded
  intro found classes loaded ascent
  exact alike_methodFrom mirrors ascent loaded selector true usage.searchLimit
    (Nat.le_trans ascent.length_le enough) ""

theorem alike_constructor
    (mirrors : Mirrors link declarations naming heap) (grounded : heap.Grounded)
    {className : String} {selector : MethodSelector}
    (named : selector.name = TypeMetadata.constructorName)
    (lawful : ∀ found, heap.class? className = .ok found → ∀ method ∈ found.2.methods,
      method.name = TypeMetadata.constructorName → method.isStatic = false) :
    Alike link declarations naming.methodRef
      (heap.findMethod className selector false false).toOption
      (answer usage (.constructor className selector)) := by
  rw [Heap.toOption_findMethod]
  apply alike_ofSignature mirrors grounded
  intro found classes loaded ascent
  rcases ascent.first with ⟨first, above, rfl, again⟩
  rw [loaded] at again
  cases again
  rcases mirrors.settles_metadata loaded with ⟨metadata, describes, learned⟩
  apply Alike.after learned
  have same := describes.map_constructor? selector
  rw [Heap.findM?_isConstructor? named (lawful found loaded)] at same
  show Alike link declarations naming.methodRef (Heap.nearestMethod _ [found]) _
  rw [Heap.nearestMethod_singleton]
  rcases here : (found.2.methodRefs found.1).findM? (MethodRef.isWanted? selector false)
    with _ | _ | method
  case none =>
    rw [here, Option.map_none, Option.map_eq_none_iff] at same
    rw [same]
    exact Alike.after_error (Settles.orAbort none)
  case some.none =>
    rw [here, Option.map_some, Option.map_none, Option.map_eq_some_iff] at same
    rcases same with ⟨_ | info, there, same⟩
    · rw [there]
      exact Alike.fail _
    · cases same
  case some.some =>
    rw [here, Option.map_some, Option.map_some, Option.map_eq_some_iff] at same
    rcases same with ⟨_ | info, there, same⟩
    · cases same
    · rw [there]
      exact Alike.found (Option.some.inj same)

/-- The fields of the root class do not matter to arrays if none of them has the name. -/
theorem alike_instanceField
    (mirrors : Mirrors link declarations naming heap) (complete : heap.Complete)
    (enough : heap.classIds.size ≤ usage.searchLimit)
    {receiver : RemoteValue} (genuine : heap.IsGenuine receiver) {name : String}
    (bare : ∀ handle, receiver = .array handle →
      (heap.findField Signature.objectClass name).toOption = none) :
    Alike link declarations naming.fieldRef
      (heap.instanceField receiver name).toOption
      (answer usage (.instanceField receiver name)) := by
  have same : (heap.instanceField receiver name).toOption =
      (heap.methodClass receiver).toOption.bind fun className =>
        (heap.lineage className).toOption.bind
          (Heap.nearestField (FieldRef.isWanted name none)) := by
    rw [Heap.instanceField, Heap.methodClass, Heap.toOption_bind, Heap.toOption_bind]
    cases runtime : heap.runtimeClass receiver with
    | error error => rfl
    | ok className =>
        by_cases array : Signature.isArray className = true
        · rcases Heap.exists_array_of_runtimeClass complete runtime array with ⟨handle, rfl⟩
          have none := bare handle rfl
          rw [Heap.toOption_findField] at none
          simp only [Except.toOption, Option.bind_some, if_pos array]
          exact none.symm
        · have found := heap.toOption_findField className name
          simp only [Except.toOption, Option.bind_some, if_neg array]
          exact found
  rw [same]
  apply alike_ofReceiver mirrors complete genuine
  intro className found classes loaded ascent
  exact alike_fieldFrom mirrors ascent loaded name none
    (Nat.le_trans ascent.length_le enough) ""

/-- The target looks for the nearest static field of the name. -/
theorem alike_nearestStatic
    (mirrors : Mirrors link declarations naming heap) (grounded : heap.Grounded)
    (enough : heap.classIds.size ≤ usage.searchLimit) (className name : String) :
    Alike link declarations naming.fieldRef
      ((heap.lineage className).toOption.bind
        (Heap.nearestField (FieldRef.isWanted name (some true))))
      (answer usage (.staticField className name)) := by
  apply alike_ofSignature mirrors grounded
  intro found classes loaded ascent
  exact alike_fieldFrom mirrors ascent loaded name (some true)
    (Nat.le_trans ascent.length_le enough) ""

/-! ## The two sides -/

/-- Two answers name the same member, or both are refusals. -/
def Agree (rename : α → β) (own : Except Halt α) (other : Except Halt β) : Prop :=
  other.toOption = own.toOption.map rename

/-- A world in memory and a target find the same members. -/
structure ResolveAlike
    (naming : Naming) (usage : Usage) (link : Surroundings State) (known : Knowledge State)
    (world : World) : Prop where
  instanceMethod : ∀ receiver selector, world.heap.IsGenuine receiver →
    Agree naming.methodRef (world.answer (.instanceMethod receiver selector)).1
      (link.perform usage (.instanceMethod receiver selector) known).1
  staticMethod : ∀ className selector,
    Agree naming.methodRef (world.answer (.staticMethod className selector)).1
      (link.perform usage (.staticMethod className selector) known).1
  /-- No constructor is static. -/
  constructor : ∀ className selector, selector.name = TypeMetadata.constructorName →
    (∀ found, world.heap.class? className = .ok found → ∀ method ∈ found.2.methods,
      method.name = TypeMetadata.constructorName → method.isStatic = false) →
    Agree naming.methodRef (world.answer (.constructor className selector)).1
      (link.perform usage (.constructor className selector) known).1
  /-- For an array, the root class may have no such field. -/
  instanceField : ∀ receiver name, world.heap.IsGenuine receiver →
    (∀ handle, receiver = .array handle →
      (world.heap.findField Signature.objectClass name).toOption = none) →
    Agree naming.fieldRef (world.answer (.instanceField receiver name)).1
      (link.perform usage (.instanceField receiver name) known).1
  /-- The nearest field of the name, if there is one, must be static. -/
  staticField : ∀ className name,
    (∀ field, world.heap.findField className name = .ok field → field.isStatic = true) →
    Agree naming.fieldRef (world.answer (.staticField className name)).1
      (link.perform usage (.staticField className name) known).1
  /-- What the world finds the target finds in any case. -/
  foundStatic : ∀ className name field,
    (world.answer (.staticField className name)).1 = .ok field →
      (link.perform usage (.staticField className name) known).1 = .ok (naming.fieldRef field)

theorem Alike.toOption_carryOut
    {rename : α → β} {own : Option α} {errand : Errand β}
    (alike : Alike link declarations rename own errand) {known : Knowledge State}
    (true : declarations.AreTrue known.types) :
    (link.carryOut errand known).1.toOption = own.map rename := by
  rcases alike with ⟨result, settles, same⟩
  rcases settles known true with ⟨after, ends, -⟩
  rw [ends, same]

theorem own_staticField
    {world : World} (connected : world.connected = true) {className name : String} :
    (world.answer (.staticField className name)).1 =
      (world.heap.staticField className name).mapError .failed := by
  rw [World.answer, if_pos connected]
  rfl

/-- Whatever the target is known to declare, the members that it finds are those of the heap. -/
theorem members_resolve_alike
    {world : World} (mirrors : Mirrors link declarations naming world.heap)
    (complete : world.heap.Complete) (connected : world.connected = true)
    (enough : world.heap.classIds.size ≤ usage.searchLimit)
    {known : Knowledge State} (true : declarations.AreTrue known.types) :
    ResolveAlike naming usage link known world where
  instanceMethod := by
    intro receiver selector genuine
    rw [World.answer, if_pos connected]
    exact (alike_instanceMethod mirrors complete enough genuine selector).toOption_carryOut true
  staticMethod := by
    intro className selector
    rw [World.answer, if_pos connected]
    exact (alike_staticMethod mirrors complete.grounded enough className
      selector).toOption_carryOut true
  constructor := by
    intro className selector named lawful
    rw [World.answer, if_pos connected]
    exact (alike_constructor mirrors complete.grounded named lawful).toOption_carryOut true
  instanceField := by
    intro receiver name genuine bare
    have own : (world.answer (.instanceField receiver name)).1 =
        (world.heap.instanceField receiver name).mapError .failed := by
      rw [World.answer, if_pos connected]
      rfl
    rw [Agree, own, Heap.toOption_mapError]
    exact (alike_instanceField mirrors complete enough genuine bare).toOption_carryOut true
  staticField := by
    intro className name unhidden
    have alike := (alike_nearestStatic mirrors complete.grounded enough className
      name).toOption_carryOut true
    rw [← Heap.toOption_staticField_of_open unhidden] at alike
    rw [Agree, own_staticField connected, Heap.toOption_mapError]
    exact alike
  foundStatic := by
    intro className name field found
    rw [own_staticField connected] at found
    have alike := (alike_nearestStatic mirrors complete.grounded enough className
      name).toOption_carryOut true
    have held : (world.heap.staticField className name).toOption = some field := by
      rw [← Heap.toOption_mapError Halt.failed, found]
      rfl
    rw [Heap.nearestStatic_of_staticField (Heap.eq_ok_of_toOption held)] at alike
    exact Heap.eq_ok_of_toOption alike

end

/-! ## A field that hides another -/

/-- A world in which a static field is hidden by an instance field of a derived class, the root
class has a field, and a constructor is static. -/
def hidingWorld : World :=
  World.empty.performAll [
    .loadClass ⟨Signature.objectClass, none, [], [⟨"lock", "I", false⟩],
      [⟨"hashCode", "()I", false, .ofActs [] .returnVoid⟩]⟩,
    .loadClass ⟨"LBase;", some Signature.objectClass, [], [⟨"x", "I", true⟩], []⟩,
    .loadClass ⟨"LDerived;", some "LBase;", [], [⟨"x", "I", false⟩],
      [⟨TypeMetadata.constructorName, "()V", true, .ofActs [] .returnVoid⟩,
        ⟨"reset", "()V", false, .ofActs [] .returnVoid⟩]⟩,
    .newArray none "[I" []]

/-- The array of the world, and one that it does not have. -/
def hidingRow : RemoteValue := .array ⟨0x106, .primitive .int⟩

def missingRow : RemoteValue := .array ⟨9, .primitive .int⟩

theorem hidingWorld_mirrored :
    Mirrors hidingWorld.heap.target (hidingWorld.heap.target.classDeclarations ()) Naming.same
      hidingWorld.heap := by
  apply Heap.target_mirrors
  apply Heap.sendable_of_bindings
  decide +kernel

theorem hidingWorld_complete : hidingWorld.heap.Complete where
  grounded := by
    apply Heap.grounded_of_keys
    intro signature member
    have keys : hidingWorld.heap.classIds.keys =
        [Signature.objectClass, Signature.stringClass, "LBase;", "LDerived;"] := by
      decide +kernel
    rw [keys] at member
    simp only [List.mem_cons, List.not_mem_nil, or_false] at member
    rcases member with rfl | rfl | rfl | rfl
    · exact ⟨_, .root rfl rfl⟩
    · exact ⟨_, .derived rfl rfl (.root rfl rfl)⟩
    · exact ⟨_, .derived rfl rfl (.root rfl rfl)⟩
    · exact ⟨_, .derived rfl rfl (.derived rfl rfl (.root rfl rfl))⟩
  objects := by
    intro handle signature runtime
    cases runtime

/-- What the target finds and the world does not: a static field behind an instance field of its
name, a field of the root class in an array, a method of an array that is gone, and a static
constructor.  Only the world takes an instance method of another name for a constructor. -/
theorem target_finds_more :
    Mirrors hidingWorld.heap.target (hidingWorld.heap.target.classDeclarations ()) Naming.same
        hidingWorld.heap ∧
      hidingWorld.heap.Complete ∧
      (hidingWorld.answer (.staticField "LDerived;" "x")).1.toOption = none ∧
      (hidingWorld.heap.target.perform ⟨true, 10⟩ (.staticField "LDerived;" "x")
        ⟨.empty, ()⟩).1.toOption = some ⟨0x104, 0, "x", "I", true⟩ ∧
      (hidingWorld.answer (.instanceField hidingRow "lock")).1.toOption = none ∧
      (hidingWorld.heap.target.perform ⟨true, 10⟩ (.instanceField hidingRow "lock")
        ⟨.empty, ()⟩).1.toOption = some ⟨0x103, 0, "lock", "I", false⟩ ∧
      (hidingWorld.answer (.instanceMethod missingRow (.ofArity "hashCode" 0))).1.toOption =
        none ∧
      (hidingWorld.heap.target.perform ⟨true, 10⟩
        (.instanceMethod missingRow (.ofArity "hashCode" 0)) ⟨.empty, ()⟩).1.toOption =
          some ⟨0x103, 0, "hashCode", "()I", false⟩ ∧
      (hidingWorld.answer (.constructor "LDerived;" (.ofArity "<init>" 0))).1.toOption = none ∧
      (hidingWorld.heap.target.perform ⟨true, 10⟩
        (.constructor "LDerived;" (.ofArity "<init>" 0)) ⟨.empty, ()⟩).1.toOption =
          some ⟨0x105, 0, "<init>", "()V", true⟩ ∧
      (hidingWorld.answer (.constructor "LDerived;" (.ofArity "reset" 0))).1.toOption =
        some ⟨0x105, 1, "reset", "()V", false⟩ ∧
      (hidingWorld.heap.target.perform ⟨true, 10⟩
        (.constructor "LDerived;" (.ofArity "reset" 0)) ⟨.empty, ()⟩).1.toOption = none := by
  refine ⟨hidingWorld_mirrored, hidingWorld_complete, ?_⟩
  decide +kernel

/-- Everything else both find alike: among them the inherited method of the array, and the
static field where nothing hides it. -/
theorem hiding_members_resolve_alike :
    ResolveAlike Naming.same ⟨true, 10⟩ hidingWorld.heap.target ⟨.empty, ()⟩ hidingWorld ∧
      (hidingWorld.heap.target.perform ⟨true, 10⟩
        (.instanceMethod hidingRow (.ofArity "hashCode" 0)) ⟨.empty, ()⟩).1.toOption =
          some ⟨0x103, 0, "hashCode", "()I", false⟩ ∧
      (hidingWorld.heap.target.perform ⟨true, 10⟩ (.staticField "LBase;" "x")
        ⟨.empty, ()⟩).1 = .ok ⟨0x104, 0, "x", "I", true⟩ := by
  have alike : ResolveAlike Naming.same ⟨true, 10⟩ hidingWorld.heap.target ⟨.empty, ()⟩
      hidingWorld :=
    members_resolve_alike hidingWorld_mirrored hidingWorld_complete rfl (by decide +kernel)
      (Declarations.areTrue_empty _)
  refine ⟨alike, ?_, ?_⟩
  · have genuine : hidingWorld.heap.IsGenuine hidingRow := by
      show (hidingWorld.heap.arrays.find? 0x106).isSome
      rfl
    have same := alike.instanceMethod hidingRow (.ofArity "hashCode" 0) genuine
    rw [same]
    decide +kernel
  · exact alike.foundStatic "LBase;" "x" ⟨0x104, 0, "x", "I", true⟩ rfl

end Remote

end FrameEval
