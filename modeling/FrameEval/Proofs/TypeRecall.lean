import FrameEval.Proofs.Remote.Recall
import FrameEval.Proofs.Wire.Members
import Mathlib.Data.List.Basic

/-!
# Recalled types

A target is used for one operation after another, and what an operation has learned about a type
the next ones recall.  A type that could not be learned whole is not remembered at all, and a type
that was learned is never asked for again.

Nobody notices as long as a target reports as classes what it names as superclasses, and as
interfaces what it names as interfaces: each operation then ends as it would have ended had nothing
been known.  A type that is both reported as an interface and named as a superclass gives the
memory away: whether it is asked for its own superclass depends on who met it first.
-/

namespace FrameEval.Remote

open Dialogue Wire

section

variable {State α β : Type} {link : Surroundings State} {declarations : Declarations}

/-! ## Searches -/

/-- A superclass is asked for under its own tag. -/
theorem Surroundings.Declares.ofClass_superclass
    (declares : link.Declares declarations) {id superclass : TypeId} {metadata : TypeMetadata}
    (said : declarations.declared id = .ok metadata)
    (above : metadata.superclass = some superclass) :
    TypeHandle.ofClass superclass = declarations.handle superclass := by
  rcases (declarations.load_eq_ok_iff _ _).1 (declarations.load_of_declared said) with
    ⟨-, told, -⟩
  rw [above] at told
  split at told
  · next isClass =>
      rw [TypeHandle.ofClass, Declarations.handle,
        declares.tagOfSuperclass id superclass isClass told]
  · cases told

/-- An interface is asked for under its own tag. -/
theorem Surroundings.Declares.ofInterface_interface
    (declares : link.Declares declarations) {id interface : TypeId} {metadata : TypeMetadata}
    (said : declarations.declared id = .ok metadata)
    (member : interface ∈ metadata.interfaces) :
    TypeHandle.ofInterface interface = declarations.handle interface := by
  rcases (declarations.load_eq_ok_iff _ _).1 (declarations.load_of_declared said) with
    ⟨-, -, told, -⟩
  rw [TypeHandle.ofInterface, Declarations.handle,
    declares.tagOfInterface id metadata.interfaces told interface member]

theorem Settles.exists_bind
    {errand : Errand α} {onward : α → Errand β} {result : Except Halt α}
    (first : Settles link declarations errand result)
    (second : ∀ value, result = .ok value →
      ∃ later, Settles link declarations (onward value) later) :
    ∃ later, Settles link declarations (errand >>= onward) later := by
  cases result with
  | ok value =>
      rcases second value rfl with ⟨later, settles⟩
      exact ⟨later, first.bind settles⟩
  | error halt => exact ⟨_, first.bind_error⟩

theorem exists_settles_fieldFrom
    (declares : link.Declares declarations) (name : String) (wantStatic : Option Bool)
    (limit : Nat) (holder : String) (id : TypeId) :
    ∃ result, Settles link declarations
      (Errand.fieldFrom name wantStatic limit holder (declarations.handle id)) result := by
  induction limit generalizing holder id with
  | zero => exact ⟨_, Settles.exhaust⟩
  | succ limit ih =>
      apply (settles_metadata declares.toRepeats id).exists_bind
      intro declared said
      dsimp only
      split
      · exact ⟨_, Settles.pure _⟩
      · next superclass _ above =>
          rw [declares.ofClass_superclass said above]
          exact ih _ superclass
      · exact ⟨_, Settles.fail _⟩

theorem exists_settles_methodOfInterfaces
    (declares : link.Declares declarations) (selector : MethodSelector) (wantStatic : Bool)
    (holder : String) (limit : Nat) (seen pending : List TypeId)
    (interfaces : ∀ id ∈ pending, TypeHandle.ofInterface id = declarations.handle id) :
    ∃ result, Settles link declarations
      (Errand.methodOfInterfaces selector wantStatic holder limit seen pending) result := by
  induction limit generalizing seen pending with
  | zero =>
      cases pending with
      | nil => exact ⟨_, Settles.fail _⟩
      | cons type pending => exact ⟨_, Settles.exhaust⟩
  | succ limit ih =>
      cases pending with
      | nil => exact ⟨_, Settles.fail _⟩
      | cons type pending =>
          have later : ∀ id ∈ pending, TypeHandle.ofInterface id = declarations.handle id :=
            fun id member => interfaces id (List.mem_cons_of_mem type member)
          rw [Errand.methodOfInterfaces]
          split
          · exact ih seen pending later
          · rw [interfaces type List.mem_cons_self]
            apply (settles_metadata declares.toRepeats type).exists_bind
            intro declared said
            apply (Settles.orAbort _).exists_bind
            intro found _
            cases found with
            | some method => exact ⟨_, Settles.pure _⟩
            | none =>
                apply ih
                intro id member
                rcases List.mem_append.1 member with old | new
                · exact later id old
                · exact declares.ofInterface_interface said new

theorem exists_settles_methodFrom
    (declares : link.Declares declarations) (selector : MethodSelector) (wantStatic : Bool)
    (searchLimit limit : Nat) (holder : String) (known : List TypeId) (id : TypeId)
    (interfaces : ∀ id ∈ known, TypeHandle.ofInterface id = declarations.handle id) :
    ∃ result, Settles link declarations
      (Errand.methodFrom selector wantStatic searchLimit limit holder known
        (declarations.handle id)) result := by
  induction limit generalizing holder known id with
  | zero => exact ⟨_, Settles.exhaust⟩
  | succ limit ih =>
      apply (settles_metadata declares.toRepeats id).exists_bind
      intro declared said
      have more : ∀ id ∈ known ++ declared.interfaces,
          TypeHandle.ofInterface id = declarations.handle id := by
        intro id member
        rcases List.mem_append.1 member with old | new
        · exact interfaces id old
        · exact declares.ofInterface_interface said new
      apply (Settles.orAbort _).exists_bind
      intro found _
      cases found with
      | some method => exact ⟨_, Settles.pure _⟩
      | none =>
          dsimp only
          split
          · next superclass above =>
              rw [declares.ofClass_superclass said above]
              exact ih _ _ superclass more
          · exact exists_settles_methodOfInterfaces declares _ _ _ _ _ _ more

theorem exists_settles_signatures
    (declares : link.Declares declarations) (types : List TypeHandle)
    (own : ∀ type ∈ types, type = declarations.handle type.id) :
    ∃ result, Settles link declarations (Errand.signatures types) result := by
  induction types with
  | nil => exact ⟨_, Settles.pure _⟩
  | cons type types ih =>
      rw [Errand.signatures, own type List.mem_cons_self]
      apply (settles_metadata declares.toRepeats type.id).exists_bind
      intro declared said
      rcases ih fun other member => own other (List.mem_cons_of_mem type member) with
        ⟨result, settles⟩
      apply settles.exists_bind
      intro later _
      exact ⟨_, Settles.pure _⟩

/-- The types above a type are asked for under their own tags. -/
theorem Surroundings.Declares.own_of_declared
    (declares : link.Declares declarations) {id : TypeId} {metadata : TypeMetadata}
    (said : declarations.declared id = .ok metadata) :
    ∀ type ∈ metadata.superclass.toList.map TypeHandle.ofClass ++
        metadata.interfaces.map TypeHandle.ofInterface,
      type = declarations.handle type.id := by
  intro type member
  rcases List.mem_append.1 member with above | beside
  · rcases List.mem_map.1 above with ⟨superclass, isSuperclass, rfl⟩
    exact declares.ofClass_superclass said (Option.mem_toList.1 isSuperclass)
  · rcases List.mem_map.1 beside with ⟨interface, isInterface, rfl⟩
    exact declares.ofInterface_interface said isInterface

/-! ## Operations -/

theorem yields_call
    {call : Call α} {value : α} (yields : link.Yields (Errand.call call) value) :
    ∃ state, link.told call state = .ok value := by
  rcases yields with ⟨⟨types, state⟩, ends⟩
  rw [Surroundings.carryOut_call] at ends
  refine ⟨state, ?_⟩
  cases told : link.told call state with
  | ok other =>
      rw [told] at ends
      cases ends
      rfl
  | error error =>
      rw [told] at ends
      cases ends

theorem yields_bind
    {errand : Errand α} {onward : α → Errand β} {value : β}
    (yields : link.Yields (errand >>= onward) value) :
    ∃ middle, link.Yields errand middle ∧ link.Yields (onward middle) value := by
  rcases yields with ⟨known, ends⟩
  rw [Surroundings.carryOut_bind] at ends
  rcases first : link.carryOut errand known with ⟨result, after⟩
  rw [first] at ends
  cases result with
  | ok middle => exact ⟨middle, ⟨known, by rw [first]⟩, ⟨after, ends⟩⟩
  | error halt => cases ends

theorem not_yields_fail (error : EvalError) (value : α) :
    ¬ link.Yields (Errand.fail error : Errand α) value := by
  rintro ⟨known, ⟨⟩⟩

theorem yields_pure {given value : α} (yields : link.Yields (pure given : Errand α) value) :
    value = given := by
  rcases yields with ⟨known, ⟨⟩⟩
  rfl

/-- A type that is found by its signature is found under its own tag. -/
theorem Surroundings.Declares.eq_handle_of_signature
    (declares : link.Declares declarations) {signature : String} {type : TypeHandle}
    (yields : link.Yields (Errand.typeOfSignature signature) type) :
    type = declarations.handle type.id := by
  rcases yields_bind yields with ⟨found, called, given⟩
  rcases yields_call called with ⟨state, told⟩
  cases found with
  | nil => exact (not_yields_fail _ _ given).elim
  | cons found others =>
      have tagged := declares.tagOfSignature _ _ _ told found List.mem_cons_self
      rw [yields_pure given, Declarations.handle, tagged]

/-- The type of a receiver is found under its own tag. -/
theorem Surroundings.Declares.eq_handle_of_receiver
    (declares : link.Declares declarations) {receiver : RemoteValue} {type : TypeHandle}
    (yields : link.Yields (Errand.memberHolder receiver) type) :
    type = declarations.handle type.id := by
  cases receiver with
  | object handle =>
      rcases yields_bind yields with ⟨⟨tag, id⟩, called, given⟩
      rcases yields_call called with ⟨state, told⟩
      rw [yields_pure given, Declarations.handle, declares.tagOfObject _ _ _ _ told]
  | array handle => exact declares.eq_handle_of_signature yields
  | null | primitive | void => exact (not_yields_fail _ _ yields).elim

open Errand

/-- What is done with a type that was found under its own tag ends in the same way, if it does so
for each type. -/
theorem even_of_own
    {find : Errand TypeHandle} {onward : TypeHandle → Errand α} (blind : Blind link find)
    (own : ∀ {type}, link.Yields find type → type = declarations.handle type.id)
    (settles : ∀ id, ∃ result,
      Settles link declarations (onward (declarations.handle id)) result) :
    Even link declarations (find >>= onward) := by
  apply blind.bind_even
  intro type yields
  rw [own yields]
  exact even_of_settles (settles type.id)

theorem Surroundings.Declares.even_of_signature
    (declares : link.Declares declarations) (signature : String)
    {onward : TypeHandle → Errand α}
    (settles : ∀ id, ∃ result,
      Settles link declarations (onward (declarations.handle id)) result) :
    Even link declarations (typeOfSignature signature >>= onward) :=
  even_of_own (blind_typeOfSignature signature) declares.eq_handle_of_signature settles

theorem Surroundings.Declares.even_of_receiver
    (declares : link.Declares declarations) (receiver : RemoteValue)
    {onward : TypeHandle → Errand α}
    (settles : ∀ id, ∃ result,
      Settles link declarations (onward (declarations.handle id)) result) :
    Even link declarations (memberHolder receiver >>= onward) :=
  even_of_own (blind_memberHolder receiver) declares.eq_handle_of_receiver settles

theorem even_runtimeSignature
    (declares : link.Declares declarations) (value : RemoteValue) :
    Even link declarations (runtimeSignature value) := by
  cases value with
  | object handle =>
      apply (Blind.call _).bind_even
      rintro ⟨tag, id⟩ yields
      rcases yields_call yields with ⟨state, told⟩
      have own : (⟨id, tag⟩ : TypeHandle) = declarations.handle id := by
        rw [Declarations.handle, declares.tagOfObject _ _ _ _ told]
      dsimp only
      rw [own]
      apply even_of_settles
      apply (settles_metadata declares.toRepeats id).exists_bind
      intro declared _
      exact ⟨_, Settles.pure declared.signature⟩
  | array handle => exact (Blind.pure _).even
  | null | primitive | void => exact (Blind.fail _).even

theorem even_supertypes
    (declares : link.Declares declarations) (signature : String) :
    Even link declarations (supertypes signature) := by
  apply declares.even_of_signature
  intro id
  apply (settles_metadata declares.toRepeats id).exists_bind
  intro declared said
  exact exists_settles_signatures declares _ (declares.own_of_declared said)

theorem exists_settles_findMethod
    (declares : link.Declares declarations) (limit : Nat) (selector : MethodSelector)
    (wantStatic : Bool) (id : TypeId) :
    ∃ result, Settles link declarations
      (findMethod limit (declarations.handle id) selector wantStatic) result :=
  exists_settles_methodFrom declares selector wantStatic limit limit "" [] id (by simp)

theorem even_constructor
    (declares : link.Declares declarations) (className : String) (selector : MethodSelector) :
    Even link declarations (constructor className selector) := by
  apply declares.even_of_signature
  intro id
  apply (settles_metadata declares.toRepeats id).exists_bind
  intro declared _
  apply (Settles.orAbort _).exists_bind
  intro found _
  cases found with
  | some method => exact ⟨_, Settles.pure _⟩
  | none => exact ⟨_, Settles.fail _⟩

/-- Whatever true things are known, an operation ends in the same way. -/
theorem even_answer
    (declares : link.Declares declarations) (usage : Usage) (operation : Operation) :
    Even link declarations (answer usage operation) := by
  cases operation with
  | frame thread depth => exact (blind_frame thread depth).even
  | variableTable location => exact (blind_variableTable location).even
  | thisObject thread frame =>
      apply Blind.even
      apply (Blind.call _).bind
      intro receiver
      exact blind_classified _
  | frameValues thread frame slots =>
      apply Blind.even
      simp only [answer]
      split
      · exact .fail _
      · exact (Blind.call _).bind blind_classifiedAll
  | setFrameValue thread frame slot value =>
      apply Blind.even
      apply (blind_wireInt _ _).bind
      intro index
      exact .call _
  | createString text =>
      apply Blind.even
      apply (Blind.call _).bind
      intro string
      exact .pure _
  | stringValue string => exact (Blind.call _).even
  | typeSignature value => exact even_runtimeSignature declares value
  | supertypes signature => exact even_supertypes declares signature
  | arrayLength array => exact (Blind.call _).even
  | arrayGet array index => exact ((Blind.call _).bind (blind_firstClassified _)).even
  | arraySet array index value => exact (Blind.call _).even
  | newArray signature length => exact (blind_newArray signature length).even
  | instanceField receiver name =>
      apply declares.even_of_receiver
      exact exists_settles_fieldFrom declares name none usage.searchLimit ""
  | staticField className name =>
      apply declares.even_of_signature
      exact exists_settles_fieldFrom declares name (some true) usage.searchLimit ""
  | getField receiver field => exact (blind_getField receiver field).even
  | setField receiver field value => exact (blind_setField receiver field value).even
  | instanceMethod receiver selector =>
      apply declares.even_of_receiver
      exact exists_settles_findMethod declares usage.searchLimit selector false
  | staticMethod className selector =>
      apply declares.even_of_signature
      exact exists_settles_findMethod declares usage.searchLimit selector true
  | constructor className selector => exact even_constructor declares className selector
  | invoke thread receiver method arguments =>
      exact (blind_invoke usage thread receiver method arguments).even
  | newInstance thread constructor arguments =>
      exact (blind_newInstance usage thread constructor arguments).even

end

/-! ## Histories -/

section

variable {State : Type}

namespace Surroundings

/-- What is known after operations, one after another. -/
def after
    (link : Surroundings State) (usage : Usage) (operations : List Operation)
    (known : Knowledge State) : Knowledge State :=
  operations.foldl (fun known operation => (link.perform usage operation known).2) known

/-- What operations ask, one after another, with the answers. -/
def record
    (link : Surroundings State) (usage : Usage) :
    List Operation → Knowledge State → Record Request.Answer
  | [], _ => []
  | operation :: rest, known =>
      (answer usage operation).run.transcript link.handle known ++
        link.record usage rest (link.perform usage operation known).2

theorem answered_record
    (link : Surroundings State) (usage : Usage) (operations : List Operation)
    (known : Knowledge State) :
    Answered link.handle known (link.record usage operations known)
      (link.after usage operations known) := by
  induction operations generalizing known with
  | nil => exact .nil
  | cons operation rest ih =>
      apply answered_append_iff.2
      exact ⟨_, answered_transcript link.handle _ known, ih _⟩

end Surroundings

theorem areTrue_after
    {link : Surroundings State} {declarations : Declarations}
    (declares : link.Declares declarations) (usage : Usage) (operations : List Operation)
    (known : Knowledge State) (true : declarations.AreTrue known.types) :
    declarations.AreTrue (link.after usage operations known).types := by
  induction operations generalizing known with
  | nil => exact true
  | cons operation rest ih =>
      apply ih
      rcases even_answer declares usage operation known.state with ⟨result, ends⟩
      rcases ends known.types true with ⟨after, ended, trueAfter⟩
      have performed : link.perform usage operation known = (result, after) := ended
      show declarations.AreTrue (link.perform usage operation known).2.types
      rw [performed]
      exact trueAfter

/-- Something is known about a type. -/
def Knowledge.Knows (known : Knowledge State) (type : TypeId) : Prop :=
  (known.types.find? type).isSome

/-- Nothing is forgotten. -/
theorem knows_handle
    (link : Surroundings State) (request : Request) {known : Knowledge State} {type : TypeId}
    (knows : known.Knows type) : (link.handle request known).2.Knows type := by
  cases request with
  | remember other metadata =>
      rw [Knowledge.Knows]
      by_cases same : type = other
      · subst same
        simp [Surroundings.handle]
      · rw [Surroundings.handle, Table.find?_insert_ne _ _ same]
        exact knows
  | send | enter | leave | lookUp => exact knows

/-- Whoever looks up a type about which something is known is answered. -/
theorem isSome_of_knows
    {link : Surroundings State} {known after : Knowledge State} {record : Record Request.Answer}
    (answered : Answered link.handle known record after) {type : TypeId}
    (knows : known.Knows type) {answer : Option TypeMetadata}
    (member : ⟨.lookUp type, answer⟩ ∈ record) : answer.isSome := by
  induction answered with
  | nil => cases member
  | @cons question state after record rest ih =>
      rcases List.mem_cons.1 member with same | later
      · cases same
        exact knows
      · exact ih (knows_handle link question knows) later

/-- A target is used through what is known about its types as if nothing were known: after any
history an operation ends as it does when nothing is known. -/
def Recalls (link : Surroundings State) (usage : Usage) : Prop :=
  ∀ operations operation start,
    (link.perform usage operation (link.after usage operations ⟨.empty, start⟩)).1 =
      (link.perform usage operation
        ⟨.empty, (link.after usage operations ⟨.empty, start⟩).state⟩).1

/-- What was learned of types is kept, and used. -/
structure Remembers (link : Surroundings State) (usage : Usage) : Prop where
  /-- A type is known from when it could be learned; if it cannot be learned, nothing is. -/
  whole : ∀ type known,
    match link.carryOut (Errand.metadata type) known with
    | (.ok metadata, after) => after.types.find? type.id = some metadata
    | (.error _, after) => after.types = known.types
  /-- Once a type is remembered, whoever looks it up is answered. -/
  lasting : ∀ operations start earlier type metadata later answer,
    link.record usage operations ⟨.empty, start⟩ =
      earlier ++ ⟨.remember type metadata, ()⟩ :: later →
    ⟨.lookUp type, answer⟩ ∈ later → answer.isSome
  /-- Whoever is answered sends nothing to the target. -/
  silent : ∀ type known metadata, known.types.find? type.id = some metadata →
    (Errand.metadata type).run.transcript link.handle known =
      [⟨.lookUp type.id, some metadata⟩]

theorem blind_fetchMetadata
    (link : Surroundings State) (type : TypeHandle) : Blind link (Errand.fetchMetadata type) := by
  have members : ∀ signature superclass, Blind link
      (do
        let interfaces ← Errand.call (Call.interfaces type.id)
        let fields ← Errand.call (Call.fields type.id)
        let methods ← Errand.call (Call.methods type.id)
        return (⟨signature, superclass, interfaces, fields, methods⟩ : TypeMetadata)) := by
    intro signature superclass
    apply (Blind.call _).bind
    intro interfaces
    apply (Blind.call _).bind
    intro fields
    apply (Blind.call _).bind
    intro methods
    exact .pure _
  apply (Blind.call _).bind
  intro signature
  dsimp only
  split
  · apply (Blind.call _).bind
    intro superclass
    exact members signature superclass
  · exact members signature none

theorem recalls_of_declares
    {link : Surroundings State} {declarations : Declarations}
    (declares : link.Declares declarations) (usage : Usage) : Recalls link usage := by
  intro operations operation start
  have true := areTrue_after declares usage operations ⟨.empty, start⟩ declarations.areTrue_empty
  rcases even_answer declares usage operation (link.after usage operations ⟨.empty, start⟩).state
    with ⟨result, ends⟩
  rcases ends _ true with ⟨after, ended, -⟩
  rcases ends .empty declarations.areTrue_empty with ⟨afresh, endedToo, -⟩
  have used : link.perform usage operation (link.after usage operations ⟨.empty, start⟩) =
      (result, after) := ended
  rw [used, Surroundings.perform, endedToo]

theorem remembers (link : Surroundings State) (usage : Usage) : Remembers link usage where
  whole := by
    intro type known
    cases found : known.types.find? type.id with
    | some metadata =>
        rw [link.carryOut_metadata_of_known found]
        exact found
    | none =>
        rw [link.carryOut_metadata_of_unknown found]
        rcases blind_fetchMetadata link type known.state with ⟨result, after, ends⟩
        have fetched : link.carryOut (Errand.fetchMetadata type) known = _ := ends known.types
        rw [fetched]
        cases result with
        | ok metadata => exact Table.find?_insert_self _ _ _
        | error halt => rfl
  lasting := by
    intro operations start earlier type metadata later answer whole member
    have answered := link.answered_record usage operations ⟨.empty, start⟩
    rw [whole] at answered
    rcases answered_append_iff.1 answered with ⟨between, -, rest⟩
    rcases answered_cons_iff.1 rest with ⟨-, rest⟩
    apply isSome_of_knows rest _ member
    simp [Knowledge.Knows, Surroundings.handle]
  silent := by
    intro type known metadata found
    have looked : link.carryOut (Errand.ask (.lookUp type.id)) known =
        (.ok (some metadata), known) := by
      show (Except.ok (known.types.find? type.id), known) = _
      rw [found]
    rw [Surroundings.carryOut] at looked
    rw [Errand.metadata, ExceptT.run_bind, transcript_bind, looked]
    show ([⟨.lookUp type.id, known.types.find? type.id⟩] : Record Request.Answer) = _
    rw [found]

/-- Whatever the target says, what was learned of a type is kept and not asked for again, and what
could not be learned whole is not kept.  If the target always says the same, and reports types as
what it names them, this can be seen in no result. -/
theorem types_are_recalled
    (link : Surroundings State) (usage : Usage) :
    Remembers link usage ∧
      ∀ declarations, link.Declares declarations → Recalls link usage :=
  ⟨remembers link usage, fun _ declares => recalls_of_declares declares usage⟩

end

/-! ## A class and the root class -/

/-- The answer of a target that has loaded one class and the root class. -/
def tickReply (order : Order) : Except ClientError Reply :=
  let isTick := order.data = Writer.uint64 5
  match order.commandSet.toNat, order.command.toNat with
  | 1, 2 => .ok ⟨0, 0, Writer.count 0⟩
  | 2, 1 => .ok ⟨0, 0, Writer.text (if isTick then "LTick;" else Signature.objectClass)⟩
  | 3, 1 => .ok ⟨0, 0, Writer.uint64 (if isTick then 6 else 0)⟩
  | 2, 10 => .ok ⟨0, 0, Writer.count 0⟩
  | 2, 4 => .ok ⟨0, 0, Writer.count 0⟩
  | 2, 5 => .ok ⟨0, 0, Writer.count 0⟩
  | 9, 1 => .ok ⟨0, 0, Writer.uint8 1 ++ Writer.uint64 5⟩
  | _, _ => .ok ⟨0, ErrorCode.invalidObject, []⟩

/-- A target that counts the commands it gets. -/
def tickTarget : Surroundings Nat where
  send order count := (tickReply order, count + 1)
  enter _ count := count
  leave _ count := count

theorem tickTarget_declares : tickTarget.Declares (tickTarget.classDeclarations 0) := by
  apply Surroundings.declares_classDeclarations
  · intro α call state
    rfl
  · intro signature found told entry member
    have none : tickTarget.told (Call.classesBySignature signature) 0 = .ok [] := rfl
    rw [none] at told
    cases told
    cases member
  · intro object tag id told
    have one : tickTarget.told (Call.objectType object) 0 = .ok (classTag, 5) :=
      Call.conclude_of_reads (Reader.reads_typeReference 1 5) 0
    rw [one] at told
    cases told
    rfl
  · intro id interfaces told
    have none : tickTarget.told (Call.interfaces id) 0 = .ok [] := rfl
    rw [none] at told
    cases told
    rfl

/-- An object of the class. -/
def ticker : RemoteValue := .object (.plain 9)

/-- A field that neither class has is looked for twice; the second time the target is only asked
for the type of the object. -/
theorem tick_is_recalled :
    tickTarget.Declares (tickTarget.classDeclarations 0) ∧
      (tickTarget.after ⟨true, 10⟩ [.instanceField ticker "ticks"] ⟨.empty, 0⟩).state = 11 ∧
      (tickTarget.after ⟨true, 10⟩ [.instanceField ticker "ticks", .instanceField ticker "ticks"]
        ⟨.empty, 0⟩).state = 12 ∧
      (tickTarget.perform ⟨true, 10⟩ (.instanceField ticker "ticks")
        (tickTarget.after ⟨true, 10⟩ [.instanceField ticker "ticks"] ⟨.empty, 0⟩)).1 =
      (tickTarget.perform ⟨true, 10⟩ (.instanceField ticker "ticks") ⟨.empty, 11⟩).1 := by
  have recalls := (types_are_recalled tickTarget ⟨true, 10⟩).2 _ tickTarget_declares
  have first : (tickTarget.after ⟨true, 10⟩ [.instanceField ticker "ticks"]
      ⟨.empty, 0⟩).state = 11 := by
    decide +kernel
  have second : (tickTarget.after ⟨true, 10⟩
      [.instanceField ticker "ticks", .instanceField ticker "ticks"] ⟨.empty, 0⟩).state = 12 := by
    decide +kernel
  have same := recalls [.instanceField ticker "ticks"]
    (.instanceField ticker "ticks") 0
  rw [first] at same
  exact ⟨tickTarget_declares, first, second, same⟩

/-! ## An interface that is named as a superclass -/

/-- The answer of a target that reports type 5 as an interface and yet names it as the superclass
of class 7, and class 6 as its superclass.  Only class 6 has a field. -/
def crookedReply (order : Order) : Except ClientError Reply :=
  match order.commandSet.toNat, order.command.toNat with
  | 1, 2 => .ok ⟨0, 0, Writer.count 0⟩
  | 2, 1 => .ok ⟨0, 0, Writer.text Signature.objectClass⟩
  | 3, 1 => .ok ⟨0, 0, Writer.uint64
      (if order.data = Writer.uint64 7 then 5 else if order.data = Writer.uint64 5 then 6 else 0)⟩
  | 2, 10 => .ok ⟨0, 0, Writer.count 0⟩
  | 2, 4 => .ok ⟨0, 0, Writer.counted Writer.fieldInfo
      (if order.data = Writer.uint64 6 then [⟨2, "x", "I", 0⟩] else [])⟩
  | 2, 5 => .ok ⟨0, 0, Writer.count 0⟩
  | 9, 1 => .ok ⟨0, 0,
      if order.data = Writer.uint64 9 then Writer.uint8 interfaceTag ++ Writer.uint64 5
      else Writer.uint8 classTag ++ Writer.uint64 7⟩
  | _, _ => .ok ⟨0, ErrorCode.invalidObject, []⟩

def crookedTarget : Surroundings Unit where
  send order _ := (crookedReply order, ())
  enter _ _ := ()
  leave _ _ := ()

/-- What the target always says of its types. -/
def crookedDeclarations : Declarations where
  signature id := crookedTarget.told (Call.typeSignature id) ()
  superclass id := crookedTarget.told (Call.superclass id) ()
  interfaces id := crookedTarget.told (Call.interfaces id) ()
  fields id := crookedTarget.told (Call.fields id) ()
  methods id := crookedTarget.told (Call.methods id) ()
  kind id := if id = 5 then interfaceTag else classTag

theorem crookedTarget_repeats : crookedTarget.Repeats crookedDeclarations where
  signature _ _ := by rw [crookedDeclarations]
  superclass _ _ := by rw [crookedDeclarations]
  interfaces _ _ := by rw [crookedDeclarations]
  fields _ _ := by rw [crookedDeclarations]
  methods _ _ := by rw [crookedDeclarations]
  tagOfSignature := by
    intro signature state found told entry member
    have none : crookedTarget.told (Call.classesBySignature signature) state = .ok [] := rfl
    rw [none] at told
    cases told
    cases member
  tagOfObject := by
    intro object state tag id told
    have reply : crookedReply (Call.objectType object).order =
        .ok ⟨0, 0, if (Call.objectType object).order.data = Writer.uint64 9 then
              Writer.uint8 interfaceTag ++ Writer.uint64 5
            else Writer.uint8 classTag ++ Writer.uint64 7⟩ := rfl
    change (crookedReply (Call.objectType object).order).bind _ = _ at told
    rw [reply] at told
    split at told
    · cases (Call.conclude_of_reads (Reader.reads_typeReference interfaceTag 5) 0).symm.trans told
      rfl
    · cases (Call.conclude_of_reads (Reader.reads_typeReference classTag 7) 0).symm.trans told
      rfl

/-- The target always says the same of a type and reports it under one tag, and yet a field of an
object of type 5 is found only after class 7 was looked at. -/
theorem crooked_type_is_noticed :
    crookedTarget.Repeats crookedDeclarations ∧
      (crookedTarget.perform ⟨true, 10⟩ (.instanceField (.object (.plain 9)) "x")
        ⟨.empty, ()⟩).1 = .error (.failed (.noSuchField "x in java.lang.Object")) ∧
      (crookedTarget.perform ⟨true, 10⟩ (.instanceField (.object (.plain 9)) "x")
        (crookedTarget.after ⟨true, 10⟩ [.instanceField (.object (.plain 11)) "x"]
          ⟨.empty, ()⟩)).1 = .ok ⟨6, 2, "x", "I", false⟩ ∧
      ¬ Recalls crookedTarget ⟨true, 10⟩ := by
  have afresh : (crookedTarget.perform ⟨true, 10⟩ (.instanceField (.object (.plain 9)) "x")
      ⟨.empty, ()⟩).1 = .error (.failed (.noSuchField "x in java.lang.Object")) := by
    rfl
  have later : (crookedTarget.perform ⟨true, 10⟩ (.instanceField (.object (.plain 9)) "x")
      (crookedTarget.after ⟨true, 10⟩ [.instanceField (.object (.plain 11)) "x"]
        ⟨.empty, ()⟩)).1 = .ok ⟨6, 2, "x", "I", false⟩ := by
    rfl
  refine ⟨crookedTarget_repeats, afresh, later, fun recalls => ?_⟩
  have same := recalls [.instanceField (.object (.plain 11)) "x"]
    (.instanceField (.object (.plain 9)) "x") ()
  rw [later] at same
  rw [afresh] at same
  cases same

end FrameEval.Remote
