import FrameEval.Proofs.Course
import FrameEval.Remote.Answer

/-!
# Inspections over a link

Nine operations of a target only look at it.  To answer one of them an errand sends commands that
read something, and makes no invocation.  `Order.reads` is the list of these commands, and
`Alteration` that of the orders that change the target or what it runs; no order is in both.
-/

namespace FrameEval

open Wire Dialogue

/-- Whether an operation is one of the nine that only look at a target. -/
def Operation.inspects : Operation → Bool
  | thisObject _ _ => true
  | frameValues _ _ _ => true
  | typeSignature _ => true
  | supertypes _ => true
  | arrayLength _ => true
  | arrayGet _ _ => true
  | instanceField _ _ => true
  | staticField _ _ => true
  | getField _ _ => true
  | _ => false

namespace Wire

/-- The commands that read something of a target, by their set and their number. -/
def readingCommands : List (UInt8 × UInt8) :=
  [(CommandSet.target, 2), (CommandSet.referenceType, 1), (CommandSet.referenceType, 4),
    (CommandSet.referenceType, 5), (CommandSet.referenceType, 6), (CommandSet.referenceType, 10),
    (CommandSet.classType, 1), (CommandSet.object, 1), (CommandSet.object, 2),
    (CommandSet.array, 1), (CommandSet.array, 2), (CommandSet.frame, 1), (CommandSet.frame, 3)]

/-- Whether the command of an order reads something and lets no code run. -/
def Order.reads (order : Order) : Prop :=
  (order.commandSet, order.command) ∈ readingCommands ∧ order.patience = .ordinary

/-- The orders that change a target or what it runs. -/
inductive Alteration : Order → Prop where
  | createString (text : String) : Alteration (Call.createString text).order
  | newArray (type : TypeId) (length : Int32) : Alteration (Call.newArray type length).order
  | setStaticValues (type : TypeId) (values : List (FieldId × Value)) :
      Alteration (Call.setStaticValues type values).order
  | setObjectValues (object : ObjectId) (values : List (FieldId × Value)) :
      Alteration (Call.setObjectValues object values).order
  | setArrayValues (array : ObjectId) (first : Int32) (values : List Value) :
      Alteration (Call.setArrayValues array first values).order
  | setFrameValues (thread : ThreadId) (frame : FrameId) (values : List (Int32 × Value)) :
      Alteration (Call.setFrameValues thread frame values).order
  | invokeMethod
      (receiver : ObjectId) (thread : ThreadId) (type : TypeId) (method : MethodId)
      (arguments : List Value) (options : Int32) :
      Alteration (Call.invokeMethod receiver thread type method arguments options).order
  | invokeStatic
      (type : TypeId) (thread : ThreadId) (method : MethodId) (arguments : List Value)
      (options : Int32) : Alteration (Call.invokeStatic type thread method arguments options).order
  | newInstance
      (type : TypeId) (thread : ThreadId) (constructor : MethodId) (arguments : List Value)
      (options : Int32) :
      Alteration (Call.newInstance type thread constructor arguments options).order
  | suspendAll : Alteration Call.suspendAll.order
  | resumeAll : Alteration Call.resumeAll.order
  | resumeThread (thread : ThreadId) : Alteration (Call.resumeThread thread).order
  | dispose : Alteration Call.dispose.order

theorem Alteration.not_reads
    {order : Order} (alteration : Alteration order) : ¬ order.reads := by
  rintro ⟨listed, -⟩
  cases alteration <;>
    simp only [Call.createString, Call.newArray, Call.setStaticValues, Call.setObjectValues,
      Call.setArrayValues, Call.setFrameValues, Call.invokeMethod, Call.invokeStatic,
      Call.newInstance, Call.suspendAll, Call.resumeAll, Call.resumeThread, Call.dispose,
      Call.plain, Call.running] at listed <;>
    exact absurd listed (by decide)

end Wire

namespace Remote

/-- Whether a request only reads something of the target, or concerns what is known of types. -/
def Request.inspects : Request → Prop
  | .send order => order.reads
  | .enter _ => False
  | .leave _ => False
  | .lookUp _ => True
  | .remember _ _ => True

section

variable {α β : Type}

/-- An errand that makes no other requests, whatever the answers are. -/
def Inspecting (errand : Errand α) : Prop :=
  ∀ record request, errand.run.Asks record request → request.inspects

namespace Inspecting

theorem pure (value : α) : Inspecting (Pure.pure value : Errand α) :=
  fun _ _ asks => (not_asks_done _ _ _ asks).elim

theorem fail (error : EvalError) : Inspecting (Errand.fail error : Errand α) :=
  fun _ _ asks => (not_asks_done _ _ _ asks).elim

theorem exhaust : Inspecting (Errand.exhaust : Errand α) :=
  fun _ _ asks => (not_asks_done _ _ _ asks).elim

theorem bind
    {errand : Errand α} {onward : α → Errand β} (first : Inspecting errand)
    (rest : ∀ value, Inspecting (onward value)) : Inspecting (errand >>= onward) := by
  intro record request asks
  rw [ExceptT.run_bind, asks_bind_iff] at asks
  rcases asks with within | ⟨_, result, after, -, -, beyond⟩
  · exact first record request within
  · cases result with
    | ok value => exact rest value after request beyond
    | error halt => exact (not_asks_done _ _ _ beyond).elim

theorem ofExcept (result : Except EvalError α) : Inspecting (Errand.ofExcept result) := by
  cases result with
  | ok value => exact pure value
  | error error => exact fail error

theorem ask
    {request : Request} (inspects : request.inspects) : Inspecting (Errand.ask request) := by
  intro record asked asks
  cases asks with
  | here => exact inspects
  | later rest => exact (not_asks_done _ _ _ rest).elim

theorem call {call : Call α} (reads : call.order.reads) : Inspecting (Errand.call call) := by
  have attempted : Inspecting (Errand.attempt call) := bind (ask reads) fun _ => pure _
  refine bind attempted fun result => ?_
  cases result with
  | ok value => exact pure value
  | error error => exact fail _

end Inspecting

end

open Errand

/-- A call that reads is made. -/
theorem inspecting_plain
    {α : Type} {commandSet command : UInt8} {data : Bytes} {answer : Reader α}
    (listed : (commandSet, command) ∈ readingCommands) :
    Inspecting (call (Call.plain commandSet command data answer)) :=
  .call ⟨listed, rfl⟩

/-! ## Values -/

theorem inspecting_classified
    (value : Wire.Value) : Inspecting (classified value) := by
  rw [classified]
  refine (Inspecting.ofExcept _).bind fun known => ?_
  cases known with
  | known value => exact .pure _
  | arrayOf id =>
      refine (inspecting_plain (by decide)).bind fun typed => ?_
      refine (inspecting_plain (by decide)).bind fun signature => ?_
      exact (Inspecting.ofExcept _).bind fun array => .pure _

theorem inspecting_classifiedAll
    (values : List Wire.Value) : Inspecting (classifiedAll values) := by
  induction values with
  | nil => exact .pure _
  | cons value values ih =>
      exact (inspecting_classified value).bind fun _ => ih.bind fun _ => .pure _

theorem inspecting_firstOf
    (what : String) (values : List RemoteValue) : Inspecting (firstOf what values) := by
  cases values with
  | nil => exact .fail _
  | cons value values => exact .pure _

/-! ## Types and their fields -/

theorem inspecting_metadata
    (type : TypeHandle) : Inspecting (metadata type) := by
  have members : ∀ signature superclass, Inspecting
      (do
        let interfaces ← call (Call.interfaces type.id)
        let fields ← call (Call.fields type.id)
        let methods ← call (Call.methods type.id)
        return (⟨signature, superclass, interfaces, fields, methods⟩ : TypeMetadata)) := by
    intro signature superclass
    refine (inspecting_plain (by decide)).bind fun interfaces => ?_
    refine (inspecting_plain (by decide)).bind fun fields => ?_
    exact (inspecting_plain (by decide)).bind fun methods => .pure _
  refine Inspecting.bind (.ask trivial) fun known => ?_
  cases known with
  | some known => exact .pure _
  | none =>
      refine Inspecting.bind ?_ fun fetched => Inspecting.bind (.ask trivial) fun _ => .pure _
      refine (inspecting_plain (by decide)).bind fun signature => ?_
      dsimp only
      split
      · exact (inspecting_plain (by decide)).bind fun superclass => members signature superclass
      · exact members signature none

theorem inspecting_typeOfSignature
    (signature : String) : Inspecting (typeOfSignature signature) := by
  refine (inspecting_plain (by decide)).bind fun found => ?_
  cases found with
  | nil => exact .fail _
  | cons found others => exact .pure _

theorem inspecting_findField
    (searchLimit : Nat) (type : TypeHandle) (name : String) (wantStatic : Option Bool) :
    Inspecting (findField searchLimit type name wantStatic) := by
  have found : ∀ limit holder type,
      Inspecting (fieldFrom name wantStatic limit holder type) := by
    intro limit
    induction limit with
    | zero => exact fun _ _ => .exhaust
    | succ limit ih =>
        intro holder type
        refine (inspecting_metadata type).bind fun declared => ?_
        dsimp only
        split
        · exact .pure _
        · exact ih _ _
        · exact .fail _
  exact found searchLimit "" type

theorem inspecting_memberHolder
    (value : RemoteValue) : Inspecting (memberHolder value) := by
  cases value with
  | object handle => exact (inspecting_plain (by decide)).bind fun typed => .pure _
  | array handle => exact inspecting_typeOfSignature _
  | null | primitive | void => exact .fail _

theorem inspecting_runtimeSignature
    (value : RemoteValue) : Inspecting (runtimeSignature value) := by
  cases value with
  | object handle =>
      refine (inspecting_plain (by decide)).bind fun typed => ?_
      exact (inspecting_metadata _).bind fun declared => .pure _
  | array handle => exact .pure _
  | null | primitive | void => exact .fail _

theorem inspecting_supertypes
    (signature : String) : Inspecting (supertypes signature) := by
  have named : ∀ types, Inspecting (signatures types) := by
    intro types
    induction types with
    | nil => exact .pure _
    | cons type types ih =>
        exact (inspecting_metadata type).bind fun _ => ih.bind fun _ => .pure _
  refine (inspecting_typeOfSignature signature).bind fun type => ?_
  exact (inspecting_metadata type).bind fun declared => named _

theorem inspecting_getField
    (receiver : Option RemoteValue) (field : FieldRef) : Inspecting (getField receiver field) := by
  have held : ∀ values, Inspecting (do firstOf "GetValues" (← classifiedAll values)) :=
    fun values => (inspecting_classifiedAll values).bind fun values => inspecting_firstOf _ values
  rw [getField]
  dsimp only
  split
  · exact (inspecting_plain (by decide)).bind held
  · refine Inspecting.bind (?_ : Inspecting (fieldOwner receiver)) fun object =>
      (inspecting_plain (by decide)).bind held
    rw [fieldOwner]
    split
    · exact .pure _
    · exact .fail _

/-! ## Operations -/

/-- An operation that looks at a target is answered by commands that read. -/
theorem inspecting_answer
    (usage : Usage) {operation : Operation} (inspects : operation.inspects = true) :
    Inspecting (answer usage operation) := by
  cases operation with
  | thisObject thread frame =>
      exact (inspecting_plain (by decide)).bind fun receiver => inspecting_classified _
  | frameValues thread frame slots =>
      simp only [answer]
      cases wireSlots slots with
      | error error => exact .fail _
      | ok slots =>
          exact (inspecting_plain (by decide)).bind fun values => inspecting_classifiedAll values
  | typeSignature value => exact inspecting_runtimeSignature value
  | supertypes signature => exact inspecting_supertypes signature
  | arrayLength array => exact inspecting_plain (by decide)
  | arrayGet array index =>
      refine (inspecting_plain (by decide)).bind fun values => ?_
      exact (inspecting_classifiedAll values).bind fun values => inspecting_firstOf _ values
  | instanceField receiver name =>
      exact (inspecting_memberHolder receiver).bind fun type =>
        inspecting_findField _ type name none
  | staticField className name =>
      exact (inspecting_typeOfSignature className).bind fun type =>
        inspecting_findField _ type name _
  | getField receiver field => exact inspecting_getField receiver field
  | frame | variableTable | setFrameValue | createString | stringValue | arraySet | newArray
  | setField | instanceMethod | staticMethod | constructor | invoke | newInstance =>
      cases inspects

end Remote

end FrameEval
