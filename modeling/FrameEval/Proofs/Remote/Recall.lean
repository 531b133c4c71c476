import FrameEval.Proofs.Course
import FrameEval.Remote.Answer

/-!
# Errands that recall types

What an errand has learned about a type is not asked for again.  Here errands are carried out
over a link whose target is left open, beside a table of what is known about types.

`Declarations` is what a target says about its types when it always says the same.  What is
known is then `True` knowledge, and an errand is `Even` when its result is the same whatever
true things are known before.  An errand that leaves the table alone is `Blind`; it is even, and
so is a blind errand before an even one.  Since every operation asks for types only after
everything else, every operation is even.
-/

namespace FrameEval.Remote

open Dialogue Wire

/-- A link with the target at its other end. -/
structure Surroundings (State : Type) where
  send : Order → State → Except ClientError Reply × State
  enter : ThreadId → State → State
  leave : ThreadId → State → State

/-- What is known about types, and the state of the target. -/
structure Knowledge (State : Type) where
  types : Table TypeId TypeMetadata
  state : State

section

variable {State α β : Type}

namespace Surroundings

/-- What an errand is answered: by the link, or from what is known. -/
def handle
    (link : Surroundings State) :
    (request : Request) → Knowledge State → request.Answer × Knowledge State
  | .send order, known =>
      ((link.send order known.state).1, { known with state := (link.send order known.state).2 })
  | .enter thread, known => ((), { known with state := link.enter thread known.state })
  | .leave thread, known => ((), { known with state := link.leave thread known.state })
  | .lookUp type, known => (known.types.find? type, known)
  | .remember type metadata, known =>
      ((), { known with types := known.types.insert type metadata })

/-- How an errand ends, and what is then known. -/
def carryOut
    (link : Surroundings State) (errand : Errand α) (known : Knowledge State) :
    Except Halt α × Knowledge State :=
  errand.run.run link.handle known

/-- How an operation ends, and what is then known. -/
def perform
    (link : Surroundings State) (usage : Usage) (operation : Operation)
    (known : Knowledge State) : Except Halt operation.Answer × Knowledge State :=
  link.carryOut (answer usage operation) known

/-- What a call is told in a state of the target. -/
def told (link : Surroundings State) (call : Call α) (state : State) : Except ClientError α :=
  (link.send call.order state).1.bind call.conclude

/-- The result of an errand, one way or another. -/
def Yields (link : Surroundings State) (errand : Errand α) (value : α) : Prop :=
  ∃ known, (link.carryOut errand known).1 = .ok value

theorem carryOut_bind
    (link : Surroundings State) (errand : Errand α) (onward : α → Errand β)
    (known : Knowledge State) :
    link.carryOut (errand >>= onward) known =
      match link.carryOut errand known with
      | (.ok value, after) => link.carryOut (onward value) after
      | (.error halt, after) => (.error halt, after) := by
  rw [carryOut, ExceptT.run_bind, run_bind, carryOut]
  rcases errand.run.run link.handle known with ⟨result, after⟩
  cases result <;> rfl

theorem carryOut_ask
    (link : Surroundings State) (request : Request) (known : Knowledge State) :
    link.carryOut (Errand.ask request) known =
      (.ok (link.handle request known).1, (link.handle request known).2) := rfl

theorem carryOut_attempt
    (link : Surroundings State) (call : Call α) (types : Table TypeId TypeMetadata)
    (state : State) :
    link.carryOut (Errand.attempt call) ⟨types, state⟩ =
      (.ok (link.told call state), ⟨types, (link.send call.order state).2⟩) := rfl

/-- A call that is told an error fails. -/
theorem carryOut_call
    (link : Surroundings State) (call : Call α) (types : Table TypeId TypeMetadata)
    (state : State) :
    link.carryOut (Errand.call call) ⟨types, state⟩ =
      ((link.told call state).mapError fun error => .failed error.toEvalError,
        ⟨types, (link.send call.order state).2⟩) := by
  rw [Errand.call, carryOut_bind, carryOut_attempt]
  cases link.told call state <;> rfl

/-- What is known about a type is not asked for. -/
theorem carryOut_metadata_of_known
    (link : Surroundings State) {type : TypeHandle} {known : Knowledge State}
    {metadata : TypeMetadata} (recalled : known.types.find? type.id = some metadata) :
    link.carryOut (Errand.metadata type) known = (.ok metadata, known) := by
  rw [Errand.metadata, carryOut_bind, carryOut_ask]
  simp only [handle, recalled]
  rfl

/-- What was not known about a type is remembered as soon as all of it is known. -/
theorem carryOut_metadata_of_unknown
    (link : Surroundings State) {type : TypeHandle} {known : Knowledge State}
    (unknown : known.types.find? type.id = none) :
    link.carryOut (Errand.metadata type) known =
      match link.carryOut (Errand.fetchMetadata type) known with
      | (.ok metadata, after) =>
          (.ok metadata, { after with types := after.types.insert type.id metadata })
      | (.error halt, after) => (.error halt, after) := by
  rw [Errand.metadata, carryOut_bind, carryOut_ask]
  simp only [handle, unknown]
  rw [carryOut_bind]
  rcases link.carryOut (Errand.fetchMetadata type) known with ⟨result, after⟩
  cases result <;> rfl

/-- A thread is marked for as long as an errand runs. -/
theorem carryOut_invoking
    (link : Surroundings State) (thread : ThreadId) (errand : Errand α)
    (types : Table TypeId TypeMetadata) (state : State) :
    link.carryOut (Errand.invoking thread errand) ⟨types, state⟩ =
      ((link.carryOut errand ⟨types, link.enter thread state⟩).1,
        { (link.carryOut errand ⟨types, link.enter thread state⟩).2 with
          state := link.leave thread
            (link.carryOut errand ⟨types, link.enter thread state⟩).2.state }) := by
  show (Dialogue.run link.handle (errand.run >>= fun result =>
    Dialogue.query (Request.leave thread) >>= fun _ => done result)
      ⟨types, link.enter thread state⟩) = _
  rw [run_bind]
  rfl

end Surroundings

/-! ## Errands that leave the table alone -/

/-- The errand ends in the same way whatever is known, and learns nothing. -/
def Blind (link : Surroundings State) (errand : Errand α) : Prop :=
  ∀ state, ∃ result after, ∀ types,
    link.carryOut errand ⟨types, state⟩ = (result, ⟨types, after⟩)

namespace Blind

variable {link : Surroundings State}

theorem bind
    {errand : Errand α} {onward : α → Errand β} (blind : Blind link errand)
    (rest : ∀ value, Blind link (onward value)) : Blind link (errand >>= onward) := by
  intro state
  rcases blind state with ⟨result, between, first⟩
  cases result with
  | ok value =>
      rcases rest value between with ⟨result, after, second⟩
      refine ⟨result, after, fun types => ?_⟩
      rw [Surroundings.carryOut_bind, first]
      exact second types
  | error halt =>
      refine ⟨.error halt, between, fun types => ?_⟩
      rw [Surroundings.carryOut_bind, first]

theorem pure (value : α) : Blind link (Pure.pure value : Errand α) :=
  fun state => ⟨_, state, fun _ => rfl⟩

theorem fail (error : EvalError) : Blind link (Errand.fail error : Errand α) :=
  fun state => ⟨_, state, fun _ => rfl⟩

theorem ofExcept (result : Except EvalError α) : Blind link (Errand.ofExcept result) := by
  cases result with
  | ok value => exact pure value
  | error error => exact fail error

theorem attempt (call : Call α) : Blind link (Errand.attempt call) :=
  fun state => ⟨_, _, fun types => link.carryOut_attempt call types state⟩

theorem call (call : Call α) : Blind link (Errand.call call) :=
  fun state => ⟨_, _, fun types => link.carryOut_call call types state⟩

theorem invoking
    {errand : Errand α} (blind : Blind link errand) (thread : ThreadId) :
    Blind link (Errand.invoking thread errand) := by
  intro state
  rcases blind (link.enter thread state) with ⟨result, after, ends⟩
  refine ⟨result, link.leave thread after, fun types => ?_⟩
  rw [Surroundings.carryOut_invoking, ends]

end Blind

/-! ### Operations without types -/

section

variable {link : Surroundings State}

open Errand

theorem blind_classified (value : Wire.Value) : Blind link (classified value) := by
  rw [classified]
  apply (Blind.ofExcept _).bind
  intro known
  cases known with
  | known value => exact .pure _
  | arrayOf id =>
      apply (Blind.call _).bind
      intro typed
      apply (Blind.call _).bind
      intro signature
      apply (Blind.ofExcept _).bind
      intro array
      exact .pure _

theorem blind_classifiedAll (values : List Wire.Value) : Blind link (classifiedAll values) := by
  induction values with
  | nil => exact .pure _
  | cons value values ih =>
      apply (blind_classified value).bind
      intro first
      apply ih.bind
      intro later
      exact .pure _

theorem blind_firstOf
    (what : String) (values : List RemoteValue) : Blind link (firstOf what values) := by
  cases values with
  | nil => exact .fail _
  | cons value values => exact .pure _

theorem blind_wireInt (what : String) (value : Nat) : Blind link (wireInt what value) := by
  rw [wireInt]
  split
  · exact .pure _
  · exact .fail _

theorem blind_fieldOwner (receiver : Option RemoteValue) : Blind link (fieldOwner receiver) := by
  rw [fieldOwner]
  split
  · exact .pure _
  · exact .fail _

theorem blind_typeOfSignature (signature : String) : Blind link (typeOfSignature signature) := by
  apply (Blind.call _).bind
  intro found
  cases found with
  | nil => exact .fail _
  | cons found others => exact .pure _

theorem blind_memberHolder (value : RemoteValue) : Blind link (memberHolder value) := by
  cases value with
  | object handle =>
      apply (Blind.call _).bind
      intro typed
      exact .pure _
  | array handle => exact blind_typeOfSignature _
  | null | primitive | void => exact .fail _

theorem blind_outcome (reply : InvocationReply) : Blind link (outcome reply) := by
  rw [outcome]
  split
  · exact .pure _
  · apply (blind_classified _).bind
    intro value
    exact .pure _

theorem blind_firstClassified (what : String) (values : List Wire.Value) :
    Blind link (do firstOf what (← classifiedAll values)) := by
  apply (blind_classifiedAll values).bind
  intro values
  exact blind_firstOf what values

theorem blind_frame (thread : ThreadId) (depth : Nat) : Blind link (frame thread depth) := by
  apply (blind_wireInt _ _).bind
  intro first
  apply (Blind.call _).bind
  intro found
  cases found with
  | nil => exact .fail _
  | cons found others => exact .pure _

theorem blind_variableTable (location : Location) : Blind link (variableTable location) := by
  apply (Blind.attempt _).bind
  intro table
  cases table with
  | ok table => exact .pure _
  | error error =>
      dsimp only
      split
      · exact .pure _
      · exact .fail _

theorem blind_newArray (signature : String) (length : Int32) :
    Blind link (newArray signature length) := by
  apply (blind_typeOfSignature _).bind
  intro type
  apply (Blind.call _).bind
  intro id
  apply (Blind.ofExcept _).bind
  intro array
  exact .pure _

theorem blind_getField (receiver : Option RemoteValue) (field : FieldRef) :
    Blind link (getField receiver field) := by
  dsimp only [getField]
  split
  · apply (Blind.call _).bind
    exact blind_firstClassified _
  · apply (blind_fieldOwner _).bind
    intro object
    apply (Blind.call _).bind
    exact blind_firstClassified _

theorem blind_setField
    (receiver : Option RemoteValue) (field : FieldRef) (value : RemoteValue) :
    Blind link (setField receiver field value) := by
  dsimp only [setField]
  split
  · exact .call _
  · apply (blind_fieldOwner _).bind
    intro object
    exact .call _

theorem blind_invoke
    (usage : Usage) (thread : ThreadId) (receiver : Option RemoteValue) (method : MethodRef)
    (arguments : List RemoteValue) :
    Blind link (invoke usage thread receiver method arguments) := by
  refine (Blind.invoking ?_ thread).bind blind_outcome
  split
  · exact .call _
  · split
    · exact .fail _
    · exact .call _

theorem blind_newInstance
    (usage : Usage) (thread : ThreadId) (constructor : MethodRef)
    (arguments : List RemoteValue) :
    Blind link (newInstance usage thread constructor arguments) :=
  ((Blind.call _).invoking thread).bind blind_outcome

end

/-! ## Types that stay as they are -/

theorem bind_eq_ok_iff
    {ε : Type} {first : Except ε α} {onward : α → Except ε β} {value : β} :
    (first >>= onward) = .ok value ↔ ∃ middle, first = .ok middle ∧ onward middle = .ok value := by
  cases first with
  | ok middle =>
      show onward middle = .ok value ↔ _
      simp
  | error error =>
      show Except.error error = .ok value ↔ _
      simp

/-- What a target says about each of its types, always the same. -/
structure Declarations where
  signature : TypeId → Except ClientError String
  superclass : TypeId → Except ClientError (Option TypeId)
  interfaces : TypeId → Except ClientError (List TypeId)
  fields : TypeId → Except ClientError (List FieldInfo)
  methods : TypeId → Except ClientError (List MethodInfo)
  /-- The tag of a type. -/
  kind : TypeId → UInt8

namespace Declarations

/-- A type under its own tag. -/
def handle (declarations : Declarations) (id : TypeId) : TypeHandle :=
  ⟨id, declarations.kind id⟩

/-- What is learned about a type under a tag, or why it cannot be learned. -/
def load (declarations : Declarations) (type : TypeHandle) : Except ClientError TypeMetadata := do
  let signature ← declarations.signature type.id
  let superclass ← if type.tag = classTag then declarations.superclass type.id else pure none
  let interfaces ← declarations.interfaces type.id
  let fields ← declarations.fields type.id
  let methods ← declarations.methods type.id
  return ⟨signature, superclass, interfaces, fields, methods⟩

/-- What an errand learns about a type. -/
def declared (declarations : Declarations) (id : TypeId) : Except Halt TypeMetadata :=
  (declarations.load (declarations.handle id)).mapError fun error => .failed error.toEvalError

theorem load_of_declared
    (declarations : Declarations) {id : TypeId} {metadata : TypeMetadata}
    (said : declarations.declared id = .ok metadata) :
    declarations.load (declarations.handle id) = .ok metadata := by
  rw [declared] at said
  cases loaded : declarations.load (declarations.handle id) with
  | ok other =>
      rw [loaded] at said
      cases said
      rfl
  | error error =>
      rw [loaded] at said
      cases said

/-- A type is learned when every part of it is. -/
theorem load_eq_ok_iff
    (declarations : Declarations) (type : TypeHandle) (metadata : TypeMetadata) :
    declarations.load type = .ok metadata ↔
      declarations.signature type.id = .ok metadata.signature ∧
      (if type.tag = classTag then declarations.superclass type.id else .ok none) =
        .ok metadata.superclass ∧
      declarations.interfaces type.id = .ok metadata.interfaces ∧
      declarations.fields type.id = .ok metadata.fields ∧
      declarations.methods type.id = .ok metadata.methods := by
  rw [load]
  by_cases isClass : type.tag = classTag
  · simp only [if_pos isClass, bind_eq_ok_iff]
    constructor
    · rintro ⟨signature, one, superclass, two, interfaces, three, fields, four, methods, five, ⟨⟩⟩
      exact ⟨one, two, three, four, five⟩
    · rintro ⟨one, two, three, four, five⟩
      exact ⟨_, one, _, two, _, three, _, four, _, five, rfl⟩
  · simp only [if_neg isClass, bind_eq_ok_iff]
    constructor
    · rintro ⟨signature, one, superclass, ⟨⟩, interfaces, three, fields, four, methods, five, ⟨⟩⟩
      exact ⟨one, rfl, three, four, five⟩
    · rintro ⟨one, two, three, four, five⟩
      exact ⟨_, one, _, two, _, three, _, four, _, five, rfl⟩

/-- Whatever is known was said by the target. -/
def AreTrue (declarations : Declarations) (types : Table TypeId TypeMetadata) : Prop :=
  ∀ id metadata, types.find? id = some metadata → declarations.declared id = .ok metadata

theorem areTrue_empty (declarations : Declarations) : declarations.AreTrue .empty := by
  intro id metadata found
  cases found

theorem AreTrue.insert
    {declarations : Declarations} {types : Table TypeId TypeMetadata}
    (known : declarations.AreTrue types) {id : TypeId} {metadata : TypeMetadata}
    (said : declarations.declared id = .ok metadata) :
    declarations.AreTrue (types.insert id metadata) := by
  intro other recalled found
  by_cases same : other = id
  · subst same
    rw [Table.find?_insert_self] at found
    cases found
    exact said
  · rw [Table.find?_insert_ne _ _ same] at found
    exact known other recalled found

end Declarations

/-- Whenever a target is asked what a type declares, as one does who takes it for a type with a
certain tag, it says the same. -/
structure Surroundings.Tells
    (link : Surroundings State) (declarations : Declarations) (type : TypeHandle) : Prop where
  signature : ∀ state,
    link.told (Call.typeSignature type.id) state = declarations.signature type.id
  superclass : type.tag = classTag → ∀ state,
    link.told (Call.superclass type.id) state = declarations.superclass type.id
  interfaces : ∀ state,
    link.told (Call.interfaces type.id) state = declarations.interfaces type.id
  fields : ∀ state, link.told (Call.fields type.id) state = declarations.fields type.id
  methods : ∀ state, link.told (Call.methods type.id) state = declarations.methods type.id

/-- A target that says the same about a type whenever it is asked, and always reports it under
one tag. -/
structure Surroundings.Repeats
    (link : Surroundings State) (declarations : Declarations) : Prop where
  signature : ∀ id state,
    link.told (Call.typeSignature id) state = declarations.signature id
  superclass : ∀ id state, link.told (Call.superclass id) state = declarations.superclass id
  interfaces : ∀ id state, link.told (Call.interfaces id) state = declarations.interfaces id
  fields : ∀ id state, link.told (Call.fields id) state = declarations.fields id
  methods : ∀ id state, link.told (Call.methods id) state = declarations.methods id
  tagOfSignature : ∀ signature state found,
    link.told (Call.classesBySignature signature) state = .ok found →
      ∀ entry ∈ found, entry.typeTag = declarations.kind entry.id
  tagOfObject : ∀ object state tag id,
    link.told (Call.objectType object) state = .ok (tag, id) → tag = declarations.kind id

theorem Surroundings.Repeats.tells
    {link : Surroundings State} {declarations : Declarations}
    (repeats : link.Repeats declarations) (type : TypeHandle) : link.Tells declarations type where
  signature := repeats.signature type.id
  superclass _ := repeats.superclass type.id
  interfaces := repeats.interfaces type.id
  fields := repeats.fields type.id
  methods := repeats.methods type.id

/-- Besides, to be named as the superclass of a class is to be reported as a class, and to be named
among the interfaces of a type is to be reported as an interface. -/
structure Surroundings.Declares
    (link : Surroundings State) (declarations : Declarations) : Prop
    extends Surroundings.Repeats link declarations where
  tagOfSuperclass : ∀ id superclass, declarations.kind id = classTag →
    declarations.superclass id = .ok (some superclass) → declarations.kind superclass = classTag
  tagOfInterface : ∀ id interfaces, declarations.interfaces id = .ok interfaces →
    ∀ interface ∈ interfaces, declarations.kind interface = interfaceTag

/-- What a target says in a state, if all of its types are classes. -/
def Surroundings.classDeclarations (link : Surroundings State) (state : State) : Declarations where
  signature id := link.told (Call.typeSignature id) state
  superclass id := link.told (Call.superclass id) state
  interfaces id := link.told (Call.interfaces id) state
  fields id := link.told (Call.fields id) state
  methods id := link.told (Call.methods id) state
  kind _ := classTag

/-- A target of classes without interfaces. -/
theorem Surroundings.declares_classDeclarations
    {link : Surroundings State} {start : State}
    (steady : ∀ {α : Type} (call : Call α) state, link.told call state = link.told call start)
    (classes : ∀ signature found,
      link.told (Call.classesBySignature signature) start = .ok found →
        ∀ entry ∈ found, entry.typeTag = classTag)
    (objects : ∀ object tag id,
      link.told (Call.objectType object) start = .ok (tag, id) → tag = classTag)
    (lone : ∀ id interfaces,
      link.told (Call.interfaces id) start = .ok interfaces → interfaces = []) :
    link.Declares (link.classDeclarations start) where
  signature _ state := steady _ state
  superclass _ state := steady _ state
  interfaces _ state := steady _ state
  fields _ state := steady _ state
  methods _ state := steady _ state
  tagOfSignature := by
    intro signature state found told
    exact classes signature found ((steady _ state).symm.trans told)
  tagOfObject := by
    intro object state tag id told
    exact objects object tag id ((steady _ state).symm.trans told)
  tagOfSuperclass _ _ _ _ := rfl
  tagOfInterface := by
    intro id interfaces told interface member
    rw [lone id interfaces told] at member
    cases member

/-- Whatever true things are known, the errand ends with one result, and what is known
afterwards is true. -/
def Settles
    (link : Surroundings State) (declarations : Declarations) (errand : Errand α)
    (result : Except Halt α) : Prop :=
  ∀ known, declarations.AreTrue known.types →
    ∃ after, link.carryOut errand known = (result, after) ∧ declarations.AreTrue after.types

/-- In each state of the target the errand ends with one result, whatever true things are known,
and what is known afterwards is true. -/
def Even
    (link : Surroundings State) (declarations : Declarations) (errand : Errand α) : Prop :=
  ∀ state, ∃ result, ∀ types, declarations.AreTrue types →
    ∃ after, link.carryOut errand ⟨types, state⟩ = (result, after) ∧
      declarations.AreTrue after.types

section

variable {link : Surroundings State} {declarations : Declarations}

theorem Settles.even
    {errand : Errand α} {result : Except Halt α}
    (settles : Settles link declarations errand result) : Even link declarations errand :=
  fun state => ⟨result, fun types known => settles ⟨types, state⟩ known⟩

theorem even_of_settles
    {errand : Errand α} (settles : ∃ result, Settles link declarations errand result) :
    Even link declarations errand := by
  rcases settles with ⟨result, settles⟩
  exact settles.even

theorem Blind.even
    {errand : Errand α} (blind : Blind link errand) : Even link declarations errand := by
  intro state
  rcases blind state with ⟨result, after, ends⟩
  exact ⟨result, fun types known => ⟨_, ends types, known⟩⟩

/-- A blind errand may come before an even one. -/
theorem Blind.bind_even
    {errand : Errand α} {onward : α → Errand β} (blind : Blind link errand)
    (rest : ∀ value, link.Yields errand value → Even link declarations (onward value)) :
    Even link declarations (errand >>= onward) := by
  intro state
  rcases blind state with ⟨result, between, first⟩
  cases result with
  | ok value =>
      have yields : link.Yields errand value := ⟨⟨.empty, state⟩, by rw [first]⟩
      rcases rest value yields between with ⟨result, second⟩
      refine ⟨result, fun types known => ?_⟩
      rw [Surroundings.carryOut_bind, first]
      exact second types known
  | error halt =>
      refine ⟨.error halt, fun types known => ⟨⟨types, between⟩, ?_, known⟩⟩
      rw [Surroundings.carryOut_bind, first]

namespace Settles

theorem pure (value : α) : Settles link declarations (Pure.pure value : Errand α) (.ok value) :=
  fun known true => ⟨known, rfl, true⟩

theorem fail (error : EvalError) :
    Settles link declarations (Errand.fail error : Errand α) (.error (.failed error)) :=
  fun known true => ⟨known, rfl, true⟩

theorem orAbort (split : Option α) :
    Settles link declarations (Errand.orAbort split) (split.elim (.error .aborted) .ok) := by
  intro known true
  cases split <;> exact ⟨known, rfl, true⟩

theorem exhaust : Settles link declarations (Errand.exhaust : Errand α) (.error .exhausted) :=
  fun known true => ⟨known, rfl, true⟩

theorem bind
    {errand : Errand α} {onward : α → Errand β} {value : α} {result : Except Halt β}
    (first : Settles link declarations errand (.ok value))
    (second : Settles link declarations (onward value) result) :
    Settles link declarations (errand >>= onward) result := by
  intro known true
  rcases first known true with ⟨between, ends, stillTrue⟩
  rcases second between stillTrue with ⟨after, endsToo, trueAfter⟩
  refine ⟨after, ?_, trueAfter⟩
  rw [Surroundings.carryOut_bind, ends]
  exact endsToo

theorem bind_error
    {errand : Errand α} {onward : α → Errand β} {halt : Halt}
    (settles : Settles link declarations errand (.error halt)) :
    Settles link declarations (errand >>= onward) (.error halt) := by
  intro known true
  rcases settles known true with ⟨after, ends, trueAfter⟩
  refine ⟨after, ?_, trueAfter⟩
  rw [Surroundings.carryOut_bind, ends]

end Settles

/-! ### What a type declares -/

/-- Whatever is known, the errand is told one thing, and it learns nothing. -/
def Fetches
    (link : Surroundings State) (errand : Errand α) (result : Except ClientError α) : Prop :=
  ∀ types state, ∃ after,
    link.carryOut errand ⟨types, state⟩ =
      (result.mapError fun error => .failed error.toEvalError, ⟨types, after⟩)

namespace Fetches

theorem call
    {call : Call α} {result : Except ClientError α}
    (tells : ∀ state, link.told call state = result) : Fetches link (Errand.call call) result := by
  intro types state
  refine ⟨(link.send call.order state).2, ?_⟩
  rw [Surroundings.carryOut_call, tells]

theorem pure (value : α) : Fetches link (Pure.pure value : Errand α) (.ok value) :=
  fun _ state => ⟨state, rfl⟩

theorem bind
    {errand : Errand α} {onward : α → Errand β} {result : Except ClientError α}
    {later : α → Except ClientError β} (first : Fetches link errand result)
    (second : ∀ value, Fetches link (onward value) (later value)) :
    Fetches link (errand >>= onward) (result >>= later) := by
  intro types state
  rcases first types state with ⟨between, ends⟩
  cases result with
  | ok value =>
      rcases second value types between with ⟨after, endsToo⟩
      refine ⟨after, ?_⟩
      rw [Surroundings.carryOut_bind, ends]
      exact endsToo
  | error error =>
      refine ⟨between, ?_⟩
      rw [Surroundings.carryOut_bind, ends]
      rfl

end Fetches

theorem fetches_metadata
    {type : TypeHandle} (tells : link.Tells declarations type) :
    Fetches link (Errand.fetchMetadata type) (declarations.load type) := by
  have members : ∀ signature superclass,
      Fetches link
        (do
          let interfaces ← Errand.call (Call.interfaces type.id)
          let fields ← Errand.call (Call.fields type.id)
          let methods ← Errand.call (Call.methods type.id)
          return (⟨signature, superclass, interfaces, fields, methods⟩ : TypeMetadata))
        (do
          let interfaces ← declarations.interfaces type.id
          let fields ← declarations.fields type.id
          let methods ← declarations.methods type.id
          return (⟨signature, superclass, interfaces, fields, methods⟩ : TypeMetadata)) := by
    intro signature superclass
    apply (Fetches.call tells.interfaces).bind
    intro interfaces
    apply (Fetches.call tells.fields).bind
    intro fields
    apply (Fetches.call tells.methods).bind
    intro methods
    exact .pure _
  apply (Fetches.call tells.signature).bind
  intro signature
  dsimp only
  split
  · next isClass =>
      apply (Fetches.call (tells.superclass isClass)).bind
      intro superclass
      exact members signature superclass
  · exact members signature none

/-- What an errand learns about a type does not depend on what is known. -/
theorem settles_metadata
    (repeats : link.Repeats declarations) (id : TypeId) :
    Settles link declarations (Errand.metadata (declarations.handle id))
      (declarations.declared id) := by
  intro known true
  cases found : known.types.find? id with
  | some recalled =>
      refine ⟨known, ?_, true⟩
      rw [true id recalled found]
      exact link.carryOut_metadata_of_known found
  | none =>
      have whole : link.carryOut (Errand.metadata (declarations.handle id)) known = _ :=
        link.carryOut_metadata_of_unknown found
      rcases fetches_metadata (repeats.tells (declarations.handle id)) known.types known.state with
        ⟨state, fetched⟩
      rw [fetched] at whole
      rw [Declarations.declared]
      cases loaded : declarations.load (declarations.handle id) with
      | ok metadata =>
          rw [loaded] at whole
          have said : declarations.declared id = .ok metadata := by
            rw [Declarations.declared, loaded]
            rfl
          exact ⟨_, whole, true.insert said⟩
      | error error =>
          rw [loaded] at whole
          exact ⟨_, whole, true⟩

end

end

end FrameEval.Remote
