import FrameEval.Proofs.Evaluation.Conduct
import FrameEval.Proofs.Evaluation.Misstep
import FrameEval.Remote.Answer
import FrameEval.World.Answer

/-!
# What targets blame

An error of the instruction sequence is found by the evaluation itself.  Neither the target in
memory nor the one at the other end of a link answers an operation with such an error:
whatever they look up, read or change, they fail with errors of the remote kind or of the
values that they were given.  The target in memory calls an index invalid only where an element
is touched outside of its array.
-/

namespace FrameEval

open Dialogue Wire

/-! ## The target in memory -/

section Memory

variable {α β Body : Type} {allowed : EvalError → Prop} {outside : Prop}

theorem failsOnly_mapM
    {action : β → Except EvalError α} (each : ∀ item, FailsOnly allowed (action item))
    (items : List β) : FailsOnly allowed (items.mapM action) := by
  induction items with
  | nil => exact failsOnly_ok _
  | cons item items ih =>
      rw [List.mapM_cons]
      exact (each item).bind fun _ _ => ih.bind fun _ _ => failsOnly_ok _

namespace Heap

/-- The errors of a heap.  Only if an element is touched outside of its array is one of them that
of an invalid index. -/
def IsRefusal (outside : Prop) (error : EvalError) : Prop :=
  error.isInternal = false ∧ (error = invalidIndex → outside)

/-- A result of a heap whose error, if it is one, is that of an invalid index only if an element
is touched outside of its array. -/
abbrev Refuses {α : Type} (outside : Prop) (result : Except EvalError α) : Prop :=
  FailsOnly (IsRefusal outside) result

/-- The same of a result that may also be a halt of another kind. -/
abbrev Declines {α : Type} (outside : Prop) (result : Except Halt α) : Prop :=
  FailsOnly (fun halt => ∀ error, halt = .failed error → IsRefusal outside error) result

theorem declines_error
    {error : EvalError} (refusal : IsRefusal outside error) :
    Declines outside (.error (.failed error) : Except Halt α) := by
  rintro _ ⟨⟩ _ ⟨⟩
  exact refusal

theorem Refuses.declines
    {result : Except EvalError α} (refuses : Refuses outside result) :
    Declines outside (result.mapError .failed) := by
  cases result with
  | ok value => exact failsOnly_ok value
  | error error => exact declines_error (refuses error rfl)

theorem Refuses.blameless
    {result : Except EvalError α} (refuses : Refuses outside result) : Blameless result := by
  intro error failed
  exact (refuses error failed).1

/-- The text of an invalid index begins with a `J`. -/
theorem isRefusal_protocol
    {detail : String} (letter : Char)
    (begins : detail.toList.head? = some letter) (differs : letter ≠ 'J') :
    IsRefusal outside (.protocol detail) := by
  refine ⟨rfl, ?_⟩
  rintro ⟨⟩
  exact (differs (Option.some.inj begins).symm).elim

end Heap

theorem ArrayHandle.refuses_ofSignature
    (id : ObjectId) (signature : String) :
    Heap.Refuses outside (ArrayHandle.ofSignature id signature) := by
  rw [ofSignature]
  split
  · exact failsOnly_ok _
  · refine failsOnly_error (Heap.isRefusal_protocol 'n' ?_ (by decide))
    exact EvalError.head?_append _ rfl

theorem ArrayHandle.blameless_ofSignature
    (id : ObjectId) (signature : String) : Blameless (ArrayHandle.ofSignature id signature) := by
  have refuses : Heap.Refuses False (ofSignature id signature) := refuses_ofSignature id signature
  exact refuses.blameless

theorem RemoteValue.blameless_classify (value : Wire.Value) : Blameless (classify value) := by
  obtain ⟨classified, known⟩ := exists_classify value
  rw [known]
  exact failsOnly_ok _

namespace Heap

variable (heap : Heap Body)

theorem refuses_class
    (signature : String) : Refuses outside (heap.class? signature) := by
  rw [class?]
  split
  · exact failsOnly_error ⟨rfl, nofun⟩
  · split
    · exact failsOnly_error ⟨rfl, nofun⟩
    · exact failsOnly_ok _

theorem refuses_lineage
    (signature : String) : Refuses outside (heap.lineage signature) := by
  have within : ∀ limit signature, Refuses outside (heap.lineageWithin limit signature) := by
    intro limit
    induction limit with
    | zero => exact fun _ => failsOnly_ok _
    | succ limit ih =>
        intro signature
        refine (heap.refuses_class signature).bind fun found _ => ?_
        split
        · exact failsOnly_ok _
        · exact (ih _).bind fun _ _ => failsOnly_ok _
  exact within _ signature

theorem refuses_runtimeClass
    (value : RemoteValue) : Refuses outside (heap.runtimeClass value) := by
  cases value with
  | object handle =>
      refine .ite (fun _ => failsOnly_ok _) ?_
      split
      · exact failsOnly_ok _
      · exact failsOnly_error ⟨rfl, by rintro ⟨⟩⟩
  | array handle =>
      simp only [runtimeClass]
      split
      · exact failsOnly_ok _
      · exact failsOnly_error ⟨rfl, by rintro ⟨⟩⟩
  | null | primitive | void => exact failsOnly_error ⟨rfl, by rintro ⟨⟩⟩

theorem refuses_liveFrame
    (thread : ThreadId) (frame : FrameId) : Refuses outside (heap.liveFrame thread frame) := by
  rw [liveFrame]
  split
  · exact failsOnly_ok _
  · exact failsOnly_error ⟨rfl, nofun⟩

theorem refuses_slotValue
    (frame : Frame) (slot : LocalSlot) : Refuses outside (slotValue frame slot) := by
  rw [slotValue]
  split
  · exact failsOnly_ok _
  · refine failsOnly_error (isRefusal_protocol 'i' ?_ (by decide))
    exact EvalError.head?_append _ rfl

theorem refuses_frameAt
    (thread : ThreadId) (depth : Nat) : Refuses outside (heap.frameAt thread depth) := by
  rw [frameAt]
  split
  · exact failsOnly_ok _
  · exact failsOnly_error ⟨rfl, nofun⟩

theorem refuses_frameValues
    (thread : ThreadId) (frame : FrameId) (slots : List LocalSlot) :
    Refuses outside (heap.frameValues thread frame slots) :=
  (heap.refuses_liveFrame thread frame).bind fun _ _ =>
    failsOnly_mapM (refuses_slotValue _) slots

theorem refuses_setFrameValue
    (thread : ThreadId) (frame : FrameId) (slot : LocalSlot) (value : RemoteValue) :
    Refuses outside (heap.setFrameValue thread frame slot value) :=
  (heap.refuses_liveFrame thread frame).bind fun found _ =>
    (refuses_slotValue found slot).bind fun _ _ => failsOnly_ok _

theorem refuses_stringText
    (string : ObjectHandle) : Refuses outside (heap.stringText string) := by
  rw [stringText]
  split
  · exact failsOnly_ok _
  · exact failsOnly_error ⟨rfl, nofun⟩

theorem refuses_supertypes
    (signature : String) : Refuses outside (heap.supertypes signature) :=
  (heap.refuses_class signature).bind fun _ _ => failsOnly_ok _

theorem refuses_arrayElements
    (array : ArrayHandle) : Refuses outside (heap.arrayElements array) := by
  rw [arrayElements]
  split
  · exact failsOnly_ok _
  · exact failsOnly_error ⟨rfl, nofun⟩

/-- An index is not one of the elements of an array that is there. -/
def Outside (array : ArrayHandle) (index : Int32) : Prop :=
  ∃ elements, heap.arrayElements array = .ok elements ∧
    ¬ (0 ≤ index.toInt ∧ index.toInt < elements.length)

theorem refuses_element
    (array : ArrayHandle) (index : Int32) :
    Refuses (heap.Outside array index) (heap.element array index) := by
  refine (heap.refuses_arrayElements array).bind fun elements found => ?_
  dsimp only
  split
  · next negative =>
      refine failsOnly_error ⟨rfl, fun _ => ⟨elements, found, ?_⟩⟩
      have below : index.toInt < 0 := Int32.lt_iff_toInt_lt.1 negative
      omega
  · split
    · exact failsOnly_ok _
    · next beyond =>
        refine failsOnly_error ⟨rfl, fun _ => ⟨elements, found, ?_⟩⟩
        have short : elements.length ≤ index.toInt.toNat := List.getElem?_eq_none_iff.1 beyond
        omega

theorem refuses_putElement
    (array : ArrayHandle) (index : Int32) (value : RemoteValue) :
    Refuses (heap.Outside array index) (heap.putElement array index value) := by
  refine (heap.refuses_arrayElements array).bind fun elements found => ?_
  dsimp only
  split
  · next strays =>
      refine failsOnly_error ⟨rfl, fun _ => ⟨elements, found, ?_⟩⟩
      rcases strays with negative | beyond
      · have below : index.toInt < 0 := Int32.lt_iff_toInt_lt.1 negative
        omega
      · omega
  · exact failsOnly_ok _

theorem refuses_allocateArray
    (signature : String) (length : Int32) :
    Refuses outside (heap.allocateArray signature length).1 := by
  rw [allocateArray]
  split
  · next failed => exact failsOnly_error (ArrayHandle.refuses_ofSignature 0 _ _ failed)
  · unfold newArray
    dsimp only
    split
    · next failed => exact failsOnly_error (ArrayHandle.refuses_ofSignature _ _ _ failed)
    · exact failsOnly_ok _

theorem refuses_findField
    (className name : String) : Refuses outside (heap.findField className name) := by
  refine (heap.refuses_lineage className).bind fun lineage _ => ?_
  split
  · exact failsOnly_ok _
  · exact failsOnly_error ⟨rfl, nofun⟩

theorem refuses_instanceField
    (receiver : RemoteValue) (name : String) :
    Refuses outside (heap.instanceField receiver name) := by
  refine (heap.refuses_runtimeClass receiver).bind fun className _ => ?_
  dsimp only
  split
  · exact failsOnly_error ⟨rfl, nofun⟩
  · exact heap.refuses_findField className name

theorem refuses_staticField
    (className name : String) : Refuses outside (heap.staticField className name) := by
  refine (heap.refuses_findField className name).bind fun field _ => ?_
  exact .ite (fun _ => failsOnly_ok _) (failsOnly_error ⟨rfl, nofun⟩)

theorem refuses_getField
    (receiver : Option RemoteValue) (field : FieldRef) :
    Refuses outside (heap.getField receiver field) := by
  rw [getField]
  dsimp only
  split
  · refine (failsOnly_ok _).bind fun held _ => ?_
    cases held with
    | some value => exact failsOnly_ok _
    | none => exact failsOnly_error ⟨rfl, by rintro ⟨⟩⟩
  · split
    · exact failsOnly_error ⟨rfl, by rintro ⟨⟩⟩
    · split
      · exact failsOnly_error ⟨rfl, by rintro ⟨⟩⟩
      · refine (failsOnly_ok _).bind fun held _ => ?_
        cases held with
        | some value => exact failsOnly_ok _
        | none => exact failsOnly_error ⟨rfl, by rintro ⟨⟩⟩

theorem refuses_putField
    (receiver : Option RemoteValue) (field : FieldRef) (value : RemoteValue) :
    Refuses outside (heap.putField receiver field value) := by
  refine .ite (fun _ => failsOnly_ok _) ?_
  split
  · exact failsOnly_error ⟨rfl, nofun⟩
  · exact .ite (fun _ => failsOnly_ok _) (failsOnly_error ⟨rfl, nofun⟩)

theorem declines_findMethod
    (className : String) (selector : MethodSelector) (wantStatic inherited : Bool) :
    Declines outside (heap.findMethod className selector wantStatic inherited) := by
  refine (heap.refuses_lineage className).declines.bind fun lineage _ => ?_
  dsimp only
  split
  · exact failsOnly_error nofun
  · exact failsOnly_ok _
  · exact declines_error ⟨rfl, nofun⟩

theorem refuses_body
    (method : MethodRef) : Refuses outside (heap.body method) := by
  rw [body]
  split
  · exact failsOnly_ok _
  · exact failsOnly_error ⟨rfl, nofun⟩

end Heap

namespace World

open Heap

variable (world : World)

/-- An operation touches an element outside of its array. -/
def Strays (operation : Operation) : Prop :=
  ∃ array index, operation.element? = some (array, index) ∧ world.heap.Outside array index

theorem declines_writes
    {change : Heap Routine → Except EvalError (Heap Routine)}
    (refuses : Refuses outside (change world.heap)) : Declines outside (world.writes change).1 := by
  rw [writes]
  split
  · exact failsOnly_ok _
  · next failed => exact declines_error (refuses _ failed)

theorem declines_invoke
    (method : MethodRef) (receiver : RemoteValue) (arguments : List RemoteValue) :
    Declines outside (world.invoke method receiver arguments).1 := by
  rw [invoke]
  split
  · next failed => exact declines_error (world.heap.refuses_body method _ failed)
  · exact failsOnly_ok _

theorem declines_newInstance
    (constructor : MethodRef) (arguments : List RemoteValue) :
    Declines outside (world.newInstance constructor arguments).1 := by
  rw [newInstance]
  split
  · next failed => exact declines_error (world.heap.refuses_body constructor _ failed)
  · exact declines_error ⟨rfl, nofun⟩
  · dsimp only
    split
    · exact failsOnly_ok _
    · exact failsOnly_ok _

theorem declines_touch
    {operation : Operation} {array : ArrayHandle} {index : Int32}
    {result : Except Halt α} (touches : operation.element? = some (array, index))
    (declines : Declines (world.heap.Outside array index) result) :
    Declines (world.Strays operation) result :=
  declines.mono fun _ refusal error same =>
    ⟨(refusal error same).1, fun invalid => ⟨array, index, touches, (refusal error same).2 invalid⟩⟩

theorem declines_respond
    (operation : Operation) :
    Declines (world.Strays operation) (world.respond operation).1 := by
  cases operation with
  | frame thread depth => exact (world.heap.refuses_frameAt thread depth).declines
  | variableTable location => exact failsOnly_ok _
  | thisObject thread frame =>
      exact Refuses.declines ((world.heap.refuses_liveFrame thread frame).map _)
  | frameValues thread frame slots =>
      exact (world.heap.refuses_frameValues thread frame slots).declines
  | setFrameValue thread frame slot value =>
      exact world.declines_writes (world.heap.refuses_setFrameValue thread frame slot value)
  | createString text => exact failsOnly_ok _
  | stringValue string => exact (world.heap.refuses_stringText string).declines
  | typeSignature value => exact (world.heap.refuses_runtimeClass value).declines
  | supertypes signature => exact (world.heap.refuses_supertypes signature).declines
  | arrayLength array => exact Refuses.declines ((world.heap.refuses_arrayElements array).map _)
  | arrayGet array index =>
      exact world.declines_touch rfl (world.heap.refuses_element array index).declines
  | arraySet array index value =>
      exact world.declines_touch rfl
        (world.declines_writes (world.heap.refuses_putElement array index value))
  | newArray signature length => exact (world.heap.refuses_allocateArray signature length).declines
  | instanceField receiver name => exact (world.heap.refuses_instanceField receiver name).declines
  | staticField className name => exact (world.heap.refuses_staticField className name).declines
  | getField receiver field => exact (world.heap.refuses_getField receiver field).declines
  | setField receiver field value =>
      exact world.declines_writes (world.heap.refuses_putField receiver field value)
  | instanceMethod receiver selector =>
      have typed : Refuses (world.Strays (.instanceMethod receiver selector))
          (world.heap.methodClass receiver) :=
        (world.heap.refuses_runtimeClass receiver).bind fun _ _ => failsOnly_ok _
      exact typed.declines.bind fun className _ =>
        world.heap.declines_findMethod className selector false true
  | staticMethod className selector =>
      exact world.heap.declines_findMethod className selector true true
  | constructor className selector =>
      exact world.heap.declines_findMethod className selector false false
  | invoke thread receiver method arguments => exact world.declines_invoke method _ arguments
  | newInstance thread constructor arguments =>
      exact world.declines_newInstance constructor arguments

theorem declines_answer
    (operation : Operation) :
    Declines (world.Strays operation) (world.answer operation).1 := by
  rw [answer]
  split
  · exact declines_respond _ operation
  · exact declines_error ⟨rfl, nofun⟩

end World

end Memory

/-! ## The target at the other end of a link -/

namespace Remote

theorem blameless_toEvalError
    (error : ClientError) : error.toEvalError.isInternal = false := by
  cases error with
  | refused code =>
      show (ClientError.evalErrorOfCode code).isInternal = false
      rw [ClientError.evalErrorOfCode]
      repeat' split
      all_goals rfl
  | io | protocol | invalidHandshake | connectionClosed | timeout => rfl

variable {α β : Type}

/-- An errand that, however the link answers, does not end in an error that blames a program. -/
def Honest (errand : Errand α) : Prop :=
  ∀ record error, errand.run.Ends record (.error (.failed error)) → error.isInternal = false

namespace Honest

theorem pure
    (value : α) : Honest (Pure.pure value : Errand α) := by
  intro record error ends
  cases ends

theorem fail
    {error : EvalError} (external : error.isInternal = false) :
    Honest (Errand.fail error : Errand α) := by
  intro record _ ends
  cases ends
  exact external

theorem orAbort (split : Option α) : Honest (Errand.orAbort split) := by
  cases split with
  | some value => exact pure value
  | none =>
      intro record error ends
      cases ends

theorem exhaust : Honest (Errand.exhaust : Errand α) := by
  intro record error ends
  cases ends

theorem bind
    {errand : Errand α} {onward : α → Errand β}
    (first : Honest errand) (rest : ∀ value, Honest (onward value)) :
    Honest (errand >>= onward) := by
  intro record error ends
  rw [ExceptT.run_bind, ends_bind_iff] at ends
  rcases ends with ⟨before, result, after, -, firstEnds, secondEnds⟩
  cases result with
  | ok value => exact rest value after error secondEnds
  | error halt =>
      cases secondEnds
      exact first before error firstEnds

theorem ofExcept
    {result : Except EvalError α} (blameless : Blameless result) :
    Honest (Errand.ofExcept result) := by
  cases result with
  | ok value => exact pure value
  | error error => exact fail (blameless error rfl)

theorem ask
    (request : Request) : Honest (Errand.ask request) := by
  intro record error ends
  cases ends with
  | ask rest => cases rest

theorem attempt
    (call : Call α) : Honest (Errand.attempt call) :=
  (ask _).bind fun _ => pure _

theorem call
    (call : Call α) : Honest (Errand.call call) := by
  refine (attempt call).bind fun result => ?_
  cases result with
  | ok value => exact pure value
  | error error => exact fail (blameless_toEvalError error)

theorem invoking
    {errand : Errand α} (honest : Honest errand) (thread : ThreadId) :
    Honest (Errand.invoking thread errand) := by
  intro record error ends
  rcases (ends_bind_iff _ _ _ _).1 ends with ⟨_, _, _, -, _, rest⟩
  rcases (ends_bind_iff _ _ _ _).1 rest with ⟨first, result, second, -, within, beyond⟩
  rcases (ends_bind_iff _ _ _ _).1 beyond with ⟨_, _, _, -, _, last⟩
  rcases (ends_done_iff _ _ _).1 last with ⟨-, rfl⟩
  exact honest first error within

end Honest

open Errand

theorem honest_classified
    (value : Wire.Value) : Honest (classified value) := by
  rw [classified]
  refine (Honest.ofExcept (RemoteValue.blameless_classify value)).bind fun known => ?_
  cases known with
  | known value => exact .pure _
  | arrayOf id =>
      refine (Honest.call _).bind fun typed => ?_
      refine (Honest.call _).bind fun signature => ?_
      refine (Honest.ofExcept (ArrayHandle.blameless_ofSignature _ _)).bind fun array => ?_
      exact .pure _

theorem honest_classifiedAll
    (values : List Wire.Value) : Honest (classifiedAll values) := by
  induction values with
  | nil => exact .pure _
  | cons value values ih =>
      exact (honest_classified value).bind fun _ => ih.bind fun _ => .pure _

theorem honest_firstOf
    (what : String) (values : List RemoteValue) : Honest (firstOf what values) := by
  cases values with
  | nil => exact .fail rfl
  | cons value values => exact .pure _

theorem honest_fieldOwner
    (receiver : Option RemoteValue) : Honest (fieldOwner receiver) := by
  rw [fieldOwner]
  split
  · exact .pure _
  · exact .fail rfl

theorem honest_wireInt
    (what : String) (value : Nat) : Honest (wireInt what value) := by
  rw [wireInt]
  split
  · exact .pure _
  · exact .fail rfl

/-! ### Types and their members -/

theorem honest_metadata
    (type : TypeHandle) : Honest (metadata type) := by
  refine (Honest.ask _).bind fun known => ?_
  cases known with
  | some known => exact .pure _
  | none =>
      refine Honest.bind ?_ fun fetched => (Honest.ask _).bind fun _ => .pure _
      refine (Honest.call _).bind fun signature => ?_
      dsimp only
      split
      · refine (Honest.call _).bind fun superclass => ?_
        refine (Honest.call _).bind fun interfaces => ?_
        refine (Honest.call _).bind fun fields => ?_
        exact (Honest.call _).bind fun methods => .pure _
      · refine (Honest.call _).bind fun interfaces => ?_
        refine (Honest.call _).bind fun fields => ?_
        exact (Honest.call _).bind fun methods => .pure _

theorem honest_typeOfSignature
    (signature : String) : Honest (typeOfSignature signature) := by
  refine (Honest.call _).bind fun found => ?_
  cases found with
  | nil => exact .fail rfl
  | cons found others => exact .pure _

theorem honest_findField
    (searchLimit : Nat) (type : TypeHandle) (name : String) (wantStatic : Option Bool) :
    Honest (findField searchLimit type name wantStatic) := by
  have found : ∀ limit holder type, Honest (fieldFrom name wantStatic limit holder type) := by
    intro limit
    induction limit with
    | zero => exact fun _ _ => .exhaust
    | succ limit ih =>
        intro holder type
        refine (honest_metadata type).bind fun declared => ?_
        dsimp only
        split
        · exact .pure _
        · exact ih _ _
        · exact .fail rfl
  exact found searchLimit "" type

theorem honest_methodOfInterfaces
    (selector : MethodSelector) (wantStatic : Bool) (holder : String) (limit : Nat)
    (seen pending : List TypeId) :
    Honest (methodOfInterfaces selector wantStatic holder limit seen pending) := by
  induction limit generalizing seen pending with
  | zero =>
      cases pending with
      | nil => exact .fail rfl
      | cons type pending => exact .exhaust
  | succ limit ih =>
      cases pending with
      | nil => exact .fail rfl
      | cons type pending =>
          rw [methodOfInterfaces]
          split
          · exact ih _ _
          · refine (honest_metadata _).bind fun declared => (Honest.orAbort _).bind fun found => ?_
            cases found with
            | some method => exact .pure _
            | none => exact ih _ _

theorem honest_findMethod
    (searchLimit : Nat) (type : TypeHandle) (selector : MethodSelector) (wantStatic : Bool) :
    Honest (findMethod searchLimit type selector wantStatic) := by
  have found : ∀ limit holder interfaces type,
      Honest (methodFrom selector wantStatic searchLimit limit holder interfaces type) := by
    intro limit
    induction limit with
    | zero => exact fun _ _ _ => .exhaust
    | succ limit ih =>
        intro holder interfaces type
        refine (honest_metadata type).bind fun declared => (Honest.orAbort _).bind fun found => ?_
        cases found with
        | some method => exact .pure _
        | none =>
            dsimp only
            split
            · exact ih _ _ _
            · exact honest_methodOfInterfaces _ _ _ _ _ _
  exact found searchLimit "" [] type

theorem honest_memberHolder
    (value : RemoteValue) : Honest (memberHolder value) := by
  cases value with
  | object handle => exact (Honest.call _).bind fun typed => .pure _
  | array handle => exact honest_typeOfSignature _
  | null | primitive | void => exact .fail rfl

theorem honest_runtimeSignature
    (value : RemoteValue) : Honest (runtimeSignature value) := by
  cases value with
  | object handle =>
      refine (Honest.call _).bind fun typed => ?_
      exact (honest_metadata _).bind fun declared => .pure _
  | array handle => exact .pure _
  | null | primitive | void => exact .fail rfl

theorem honest_supertypes
    (signature : String) : Honest (supertypes signature) := by
  have named : ∀ types, Honest (signatures types) := by
    intro types
    induction types with
    | nil => exact .pure _
    | cons type types ih =>
        exact (honest_metadata type).bind fun _ => ih.bind fun _ => .pure _
  refine (honest_typeOfSignature signature).bind fun type => ?_
  exact (honest_metadata type).bind fun declared => named _

/-! ### Operations -/

theorem honest_outcome
    (reply : InvocationReply) : Honest (outcome reply) := by
  rw [outcome]
  split
  · exact .pure _
  · exact (honest_classified _).bind fun _ => .pure _

theorem honest_frame (thread : ThreadId) (depth : Nat) : Honest (frame thread depth) := by
  refine (honest_wireInt _ _).bind fun first => (Honest.call _).bind fun found => ?_
  cases found with
  | nil => exact .fail rfl
  | cons found others => exact .pure _

theorem honest_variableTable (location : Location) : Honest (variableTable location) := by
  refine (Honest.attempt _).bind fun table => ?_
  cases table with
  | ok table => exact .pure _
  | error error =>
      dsimp only
      split
      · exact .pure _
      · exact .fail (blameless_toEvalError error)

theorem honest_firstClassified (what : String) (values : List Wire.Value) :
    Honest (do firstOf what (← classifiedAll values)) :=
  (honest_classifiedAll values).bind fun values => honest_firstOf what values

theorem honest_newArray (signature : String) (length : Int32) :
    Honest (newArray signature length) := by
  refine (honest_typeOfSignature signature).bind fun type => ?_
  refine (Honest.call _).bind fun id => ?_
  exact (Honest.ofExcept (ArrayHandle.blameless_ofSignature _ _)).bind fun _ => .pure _

theorem honest_getField (receiver : Option RemoteValue) (field : FieldRef) :
    Honest (getField receiver field) := by
  rw [getField]
  dsimp only
  split
  · exact (Honest.call _).bind (honest_firstClassified _)
  · refine (honest_fieldOwner receiver).bind fun object => ?_
    exact (Honest.call _).bind (honest_firstClassified _)

theorem honest_setField
    (receiver : Option RemoteValue) (field : FieldRef) (value : RemoteValue) :
    Honest (setField receiver field value) := by
  show Honest (if field.isStatic then _ else _)
  split
  · exact .call _
  · exact (honest_fieldOwner receiver).bind fun object => .call _

theorem honest_constructor (className : String) (selector : MethodSelector) :
    Honest (constructor className selector) := by
  refine (honest_typeOfSignature className).bind fun type => ?_
  refine (honest_metadata type).bind fun declared => (Honest.orAbort _).bind fun found => ?_
  cases found with
  | some method => exact .pure _
  | none => exact .fail rfl

theorem honest_invoke
    (usage : Usage) (thread : ThreadId) (receiver : Option RemoteValue) (method : MethodRef)
    (arguments : List RemoteValue) : Honest (invoke usage thread receiver method arguments) := by
  refine Honest.bind (.invoking ?_ thread) fun reply => honest_outcome reply
  cases receiver with
  | none => exact .call _
  | some receiver =>
      dsimp only
      split
      · exact .fail rfl
      · exact .call _

theorem honest_answer
    (usage : Usage) (operation : Operation) : Honest (answer usage operation) := by
  cases operation with
  | frame thread depth => exact honest_frame thread depth
  | variableTable location => exact honest_variableTable location
  | thisObject thread frame =>
      exact (Honest.call _).bind fun receiver => honest_classified _
  | frameValues thread frame slots =>
      simp only [answer]
      cases wireSlots slots with
      | error error => exact .fail (blameless_toEvalError error)
      | ok slots => exact (Honest.call _).bind fun values => honest_classifiedAll values
  | setFrameValue thread frame slot value =>
      exact (honest_wireInt _ _).bind fun index => .call _
  | createString text => exact (Honest.call _).bind fun string => .pure _
  | stringValue string => exact .call _
  | typeSignature value => exact honest_runtimeSignature value
  | supertypes signature => exact honest_supertypes signature
  | arrayLength array => exact .call _
  | arrayGet array index => exact (Honest.call _).bind (honest_firstClassified _)
  | arraySet array index value => exact .call _
  | newArray signature length => exact honest_newArray signature length
  | instanceField receiver name =>
      exact (honest_memberHolder receiver).bind fun type => honest_findField _ type name none
  | staticField className name =>
      exact (honest_typeOfSignature className).bind fun type => honest_findField _ type name _
  | getField receiver field => exact honest_getField receiver field
  | setField receiver field value => exact honest_setField receiver field value
  | instanceMethod receiver selector =>
      exact (honest_memberHolder receiver).bind fun type => honest_findMethod _ type selector _
  | staticMethod className selector =>
      exact (honest_typeOfSignature className).bind fun type =>
        honest_findMethod _ type selector _
  | constructor className selector => exact honest_constructor className selector
  | invoke thread receiver method arguments =>
      exact honest_invoke usage thread receiver method arguments
  | newInstance thread constructor arguments =>
      exact (Honest.invoking (.call _) thread).bind fun reply => honest_outcome reply

/-- The answers of a target at the other end of a link to what an evaluation asks; whether the
evaluation was cancelled is not known there. -/
def handle (usage : Usage) (cancelled : Dialogue Request Request.Answer Bool) :
    (inquiry : Inquiry) → Dialogue Request Request.Answer inquiry.Answer
  | .operation operation => (answer usage operation).run
  | .cancelled => cancelled

end Remote

end FrameEval
