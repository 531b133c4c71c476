import FrameEval.Proofs.Heap.Lineage
import FrameEval.Proofs.Remote.Recall
import Mathlib.Logic.Function.Basic

/-!
# A target with the classes of a heap

A target at the other end of a link `Mirrors` a heap when it has loaded the same classes, which it
knows under ids of its own: a `Naming` says which.  A search over the link is `Alike` a search in
the heap when both find the same member, or neither finds any.

What is learned of a class lists the members that the heap lists, so in one class both searches
find the same member.  From it, along a chain of superclasses, the nearest one is the same.
-/

namespace FrameEval

open Wire

/-! ## The target of a heap -/

/-- The ids under which a target knows classes and their members, each under one of its own. -/
structure Naming where
  type : TypeId → TypeId
  field : TypeId → FieldId → FieldId
  method : TypeId → MethodId → MethodId
  type_injective : Function.Injective type
  field_injective : ∀ declaring, Function.Injective (field declaring)
  method_injective : ∀ declaring, Function.Injective (method declaring)

namespace Naming

variable {Body : Type}

/-- A field as the target names it. -/
def fieldRef (naming : Naming) (field : FieldRef) : FieldRef :=
  { field with
    declaringType := naming.type field.declaringType
    id := naming.field field.declaringType field.id }

/-- A method as the target names it. -/
def methodRef (naming : Naming) (method : MethodRef) : MethodRef :=
  { method with
    declaringType := naming.type method.declaringType
    id := naming.method method.declaringType method.id }

/-- What the target declares of a class without interfaces: its superclass, and the same fields
and methods in the same order. -/
structure Describes
    (naming : Naming) (heap : Heap Body) (entry : TypeId × ClassDefinition Body)
    (metadata : Remote.TypeMetadata) : Prop where
  signature : metadata.signature = entry.2.signature
  root : entry.2.superclass = none → metadata.superclass = none
  derived : ∀ superclass found, entry.2.superclass = some superclass →
    heap.class? superclass = .ok found → metadata.superclass = some (naming.type found.1)
  interfaces : metadata.interfaces = []
  fields : metadata.fields.map (FieldRef.of (naming.type entry.1)) =
    (entry.2.fieldRefs entry.1).map naming.fieldRef
  methods : metadata.methods.map (MethodRef.of (naming.type entry.1)) =
    (entry.2.methodRefs entry.1).map naming.methodRef

end Naming

namespace Remote

variable {State Body α β : Type}

/-- A target that has loaded the classes of a heap, and has its objects. -/
structure Mirrors
    (link : Surroundings State) (declarations : Declarations) (naming : Naming)
    (heap : Heap Body) : Prop where
  declares : link.Declares declarations
  loaded : ∀ signature found, heap.class? signature = .ok found → ∃ status, ∀ state,
    link.told (Call.classesBySignature signature) state =
      .ok [⟨classTag, naming.type found.1, signature, status⟩]
  unloaded : ∀ signature error, heap.class? signature = .error error → ∀ state,
    link.told (Call.classesBySignature signature) state = .ok []
  kind : ∀ signature found, heap.class? signature = .ok found →
    declarations.kind (naming.type found.1) = classTag
  described : ∀ signature found, heap.class? signature = .ok found → ∃ metadata,
    declarations.declared (naming.type found.1) = .ok metadata ∧
      naming.Describes heap found metadata
  /-- The type of an object is its class. -/
  object : ∀ handle signature found, heap.runtimeClass (.object handle) = .ok signature →
    heap.class? signature = .ok found → ∀ state,
      link.told (Call.objectType handle.id) state = .ok (classTag, naming.type found.1)
  /-- What is no object and no array has no type. -/
  stale : ∀ handle error, heap.runtimeClass (.object handle) = .error error →
    heap.arrays.find? handle.id = none →
      ∃ reason, ∀ state, link.told (Call.objectType handle.id) state = .error reason

section

variable {link : Surroundings State} {declarations : Declarations}

/-- A call that is always told the same settles. -/
theorem Settles.call
    {call : Call α} {result : Except ClientError α}
    (tells : ∀ state, link.told call state = result) :
    Settles link declarations (Errand.call call)
      (result.mapError fun error => .failed error.toEvalError) := by
  intro known true
  rcases Fetches.call tells known.types known.state with ⟨after, ends⟩
  exact ⟨_, ends, true⟩

/-- What a search over a link finds is what another search finds, under its other name; or
neither finds anything. -/
def Alike
    (link : Surroundings State) (declarations : Declarations) (rename : α → β)
    (own : Option α) (errand : Errand β) : Prop :=
  ∃ result, Settles link declarations errand result ∧ result.toOption = own.map rename

namespace Alike

variable {rename : α → β}

theorem found
    {own : α} {other : β} (same : other = rename own) :
    Alike link declarations rename (some own) (pure other) :=
  ⟨_, Settles.pure other, congrArg some same⟩

theorem fail (error : EvalError) : Alike link declarations rename none (Errand.fail error) :=
  ⟨_, Settles.fail error, rfl⟩

theorem after
    {γ : Type} {errand : Errand γ} {onward : γ → Errand β} {value : γ} {own : Option α}
    (first : Settles link declarations errand (.ok value))
    (alike : Alike link declarations rename own (onward value)) :
    Alike link declarations rename own (errand >>= onward) := by
  rcases alike with ⟨result, settles, same⟩
  exact ⟨result, first.bind settles, same⟩

theorem after_error
    {γ : Type} {errand : Errand γ} {onward : γ → Errand β} {halt : Halt}
    (first : Settles link declarations errand (.error halt)) :
    Alike link declarations rename none (errand >>= onward) :=
  ⟨_, first.bind_error, rfl⟩

end Alike

end

namespace Mirrors

variable {link : Surroundings State} {declarations : Declarations} {naming : Naming}
  {heap : Heap Body} {signature : String} {found : TypeId × ClassDefinition Body}
  {classes : List (TypeId × ClassDefinition Body)}

/-- The id of a loaded class under the tag of classes. -/
theorem ofClass_eq
    (mirrors : Mirrors link declarations naming heap)
    (loaded : heap.class? signature = .ok found) :
    TypeHandle.ofClass (naming.type found.1) = declarations.handle (naming.type found.1) := by
  rw [TypeHandle.ofClass, Declarations.handle, mirrors.kind _ _ loaded]

/-- What is learned of a loaded class describes it. -/
theorem settles_metadata
    (mirrors : Mirrors link declarations naming heap)
    (loaded : heap.class? signature = .ok found) :
    ∃ metadata, naming.Describes heap found metadata ∧
      Settles link declarations (Errand.metadata (.ofClass (naming.type found.1)))
        (.ok metadata) := by
  rcases mirrors.described _ _ loaded with ⟨metadata, said, describes⟩
  refine ⟨metadata, describes, ?_⟩
  rw [mirrors.ofClass_eq loaded, ← said]
  exact Remote.settles_metadata mirrors.declares.toRepeats _

theorem settles_typeOfSignature
    (mirrors : Mirrors link declarations naming heap)
    (loaded : heap.class? signature = .ok found) :
    Settles link declarations (Errand.typeOfSignature signature)
      (.ok (.ofClass (naming.type found.1))) := by
  rcases mirrors.loaded _ _ loaded with ⟨status, told⟩
  exact (Settles.call told).bind (Settles.pure _)

theorem settles_typeOfSignature_of_unloaded
    (mirrors : Mirrors link declarations naming heap) {error : EvalError}
    (unloaded : heap.class? signature = .error error) :
    ∃ halt, Settles link declarations (Errand.typeOfSignature signature) (.error halt) := by
  have told := mirrors.unloaded _ _ unloaded
  exact ⟨_, (Settles.call told).bind (Settles.fail _)⟩

end Mirrors

end Remote

/-! ## Members of one class -/

/-- Whether a method is a constructor that a search looks for. -/
def MethodRef.isConstructor? (selector : MethodSelector) (method : MethodRef) : Option Bool :=
  if method.name = Remote.TypeMetadata.constructorName then
    selector.selects? method.name method.signature
  else some false

namespace Naming.Describes

variable {Body : Type} {naming : Naming} {heap : Heap Body}
  {entry : TypeId × ClassDefinition Body} {metadata : Remote.TypeMetadata}

theorem map_field?
    (describes : naming.Describes heap entry metadata) (name : String)
    (wantStatic : Option Bool) :
    (metadata.field? name wantStatic).map (FieldRef.of (naming.type entry.1)) =
      ((entry.2.fieldRefs entry.1).find? (FieldRef.isWanted name wantStatic)).map
        naming.fieldRef := by
  have named := congrArg (List.find? (FieldRef.isWanted name wantStatic)) describes.fields
  rw [List.find?_map, List.find?_map] at named
  exact named

theorem map_method?
    (describes : naming.Describes heap entry metadata) (selector : MethodSelector)
    (wantStatic : Bool) :
    (metadata.method? selector wantStatic).map (Option.map (MethodRef.of (naming.type entry.1))) =
      ((entry.2.methodRefs entry.1).findM? (MethodRef.isWanted? selector wantStatic)).map
        (Option.map naming.methodRef) := by
  have named := congrArg (List.findM? (MethodRef.isWanted? selector wantStatic)) describes.methods
  rw [findM?_map, findM?_map] at named
  exact named

theorem map_constructor?
    (describes : naming.Describes heap entry metadata) (selector : MethodSelector) :
    (metadata.constructor? selector).map (Option.map (MethodRef.of (naming.type entry.1))) =
      ((entry.2.methodRefs entry.1).findM? (MethodRef.isConstructor? selector)).map
        (Option.map naming.methodRef) := by
  have named := congrArg (List.findM? (MethodRef.isConstructor? selector)) describes.methods
  rw [findM?_map, findM?_map] at named
  exact named

end Naming.Describes

/-! ## Chains of superclasses -/

namespace Remote

variable {State Body : Type} {link : Surroundings State} {declarations : Declarations}
  {naming : Naming} {heap : Heap Body} {signature : String}
  {found : TypeId × ClassDefinition Body} {classes : List (TypeId × ClassDefinition Body)}

/-- The class itself has the field, or else the field is looked for further up. -/
theorem alike_fieldFrom_succ
    (mirrors : Mirrors link declarations naming heap)
    (loaded : heap.class? signature = .ok found) {name : String} {wantStatic : Option Bool}
    {limit : Nat} (holder : String)
    (further : ∀ (metadata : TypeMetadata) (holder : String),
      naming.Describes heap found metadata →
        Alike link declarations naming.fieldRef
          (Heap.nearestField (FieldRef.isWanted name wantStatic) classes)
          (match metadata.superclass with
          | some superclass => Errand.fieldFrom name wantStatic limit holder (.ofClass superclass)
          | none => Errand.fail (.noSuchField s!"{name} in {holder}"))) :
    Alike link declarations naming.fieldRef
      (Heap.nearestField (FieldRef.isWanted name wantStatic) (found :: classes))
      (Errand.fieldFrom name wantStatic (limit + 1) holder (.ofClass (naming.type found.1))) := by
  rcases mirrors.settles_metadata loaded with ⟨metadata, describes, learned⟩
  apply Alike.after learned
  have same := describes.map_field? name wantStatic
  rw [Heap.nearestField, List.findSome?_cons]
  cases here : (found.2.fieldRefs found.1).find? (FieldRef.isWanted name wantStatic) with
  | some field =>
      rw [here, Option.map_some, Option.map_eq_some_iff] at same
      rcases same with ⟨info, there, same⟩
      simp only [there]
      exact Alike.found same
  | none =>
      rw [here, Option.map_none, Option.map_eq_none_iff] at same
      have later := further metadata (Errand.startName holder metadata) describes
      simp only [same]
      cases above : metadata.superclass with
      | some superclass =>
          rw [above] at later
          exact later
      | none =>
          rw [above] at later
          exact later

/-- The nearest field is the same one. -/
theorem alike_fieldFrom
    (mirrors : Mirrors link declarations naming heap) (ascent : heap.Ascent signature classes)
    (loaded : heap.class? signature = .ok found) (name : String) (wantStatic : Option Bool)
    {limit : Nat} (enough : classes.length ≤ limit) (holder : String) :
    Alike link declarations naming.fieldRef
      (Heap.nearestField (FieldRef.isWanted name wantStatic) classes)
      (Errand.fieldFrom name wantStatic limit holder (.ofClass (naming.type found.1))) := by
  induction ascent generalizing found limit holder with
  | root loaded' top =>
      rw [loaded] at loaded'
      cases loaded'
      cases limit with
      | zero => cases enough
      | succ limit =>
          apply alike_fieldFrom_succ mirrors loaded
          intro metadata holder describes
          rw [describes.root top]
          exact Alike.fail _
  | derived loaded' below ascent ih =>
      rw [loaded] at loaded'
      cases loaded'
      cases limit with
      | zero => cases enough
      | succ limit =>
          rcases ascent.first with ⟨next, above, -, loadedNext⟩
          apply alike_fieldFrom_succ mirrors loaded
          intro metadata holder describes
          rw [describes.derived _ next below loadedNext]
          exact ih loadedNext (Nat.le_of_succ_le_succ enough) holder

/-- The class itself has the method, or else the method is looked for further up. -/
theorem alike_methodFrom_succ
    (mirrors : Mirrors link declarations naming heap)
    (loaded : heap.class? signature = .ok found) {selector : MethodSelector} {wantStatic : Bool}
    {searchLimit limit : Nat} (holder : String)
    (further : ∀ (metadata : TypeMetadata) (holder : String),
      naming.Describes heap found metadata →
        Alike link declarations naming.methodRef
          (Heap.nearestMethod (MethodRef.isWanted? selector wantStatic) classes)
          (match metadata.superclass with
          | some superclass =>
              Errand.methodFrom selector wantStatic searchLimit limit holder []
                (.ofClass superclass)
          | none => Errand.methodOfInterfaces selector wantStatic holder searchLimit [] [])) :
    Alike link declarations naming.methodRef
      (Heap.nearestMethod (MethodRef.isWanted? selector wantStatic) (found :: classes))
      (Errand.methodFrom selector wantStatic searchLimit (limit + 1) holder []
        (.ofClass (naming.type found.1))) := by
  rcases mirrors.settles_metadata loaded with ⟨metadata, describes, learned⟩
  apply Alike.after learned
  have same := describes.map_method? selector wantStatic
  rw [Heap.nearestMethod_cons]
  rcases here : (found.2.methodRefs found.1).findM? (MethodRef.isWanted? selector wantStatic)
    with _ | _ | method
  case none =>
    rw [here, Option.map_none, Option.map_eq_none_iff] at same
    simp only [same]
    exact Alike.after_error (Settles.orAbort none)
  case some.none =>
    rw [here, Option.map_some, Option.map_none, Option.map_eq_some_iff] at same
    rcases same with ⟨_ | info, there, same⟩
    · have later := further metadata (Errand.startName holder metadata) describes
      simp only [there, describes.interfaces, List.append_nil]
      exact later
    · cases same
  case some.some =>
    rw [here, Option.map_some, Option.map_some, Option.map_eq_some_iff] at same
    rcases same with ⟨_ | info, there, same⟩
    · cases same
    · simp only [there]
      exact Alike.found (Option.some.inj same)

/-- The nearest method is the same one. -/
theorem alike_methodFrom
    (mirrors : Mirrors link declarations naming heap) (ascent : heap.Ascent signature classes)
    (loaded : heap.class? signature = .ok found) (selector : MethodSelector) (wantStatic : Bool)
    (searchLimit : Nat) {limit : Nat} (enough : classes.length ≤ limit) (holder : String) :
    Alike link declarations naming.methodRef
      (Heap.nearestMethod (MethodRef.isWanted? selector wantStatic) classes)
      (Errand.methodFrom selector wantStatic searchLimit limit holder []
        (.ofClass (naming.type found.1))) := by
  induction ascent generalizing found limit holder with
  | root loaded' top =>
      rw [loaded] at loaded'
      cases loaded'
      cases limit with
      | zero => cases enough
      | succ limit =>
          apply alike_methodFrom_succ mirrors loaded
          intro metadata holder describes
          rw [describes.root top]
          cases searchLimit <;> exact Alike.fail _
  | derived loaded' below ascent ih =>
      rw [loaded] at loaded'
      cases loaded'
      cases limit with
      | zero => cases enough
      | succ limit =>
          rcases ascent.first with ⟨next, above, -, loadedNext⟩
          apply alike_methodFrom_succ mirrors loaded
          intro metadata holder describes
          rw [describes.derived _ next below loadedNext]
          exact ih loadedNext (Nat.le_of_succ_le_succ enough) holder

end Remote

end FrameEval
