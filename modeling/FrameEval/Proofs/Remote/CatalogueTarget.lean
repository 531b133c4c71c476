import FrameEval.Proofs.Remote.Ancestry
import FrameEval.Proofs.Remote.Likeness
import FrameEval.Proofs.Remote.Questions

/-!
# Targets that describe a catalogue

A target describes a type, with all that lies above it, as a catalogue does.  What is known of these
types may be just what the catalogue says, and then it stays so as long as only superclasses are
learned of.  What is learned of an interface lacks the superclass, for which it is not asked; its
own interfaces and its methods are right none the less.

Every catalogue that can be sent at all is described by some target.
-/

namespace FrameEval.Remote

open Wire

namespace Catalogue

/-- What is said of the types of a catalogue, each under its own tag. -/
def declarations (catalogue : Catalogue) (kind : TypeId → UInt8) : Declarations where
  signature id := .ok (catalogue id).signature
  superclass id := .ok (catalogue id).superclass
  interfaces id := .ok (catalogue id).interfaces
  fields id := .ok (catalogue id).fields
  methods id := .ok (catalogue id).methods
  kind := kind

/-- The same, as far as it does not depend on the tags. -/
abbrev said (catalogue : Catalogue) : Declarations :=
  catalogue.declarations fun _ => classTag

/-- What is known of the types of a roster is what a catalogue says. -/
def Agrees
    (catalogue : Catalogue) (roster : Finset TypeId) (types : Table TypeId TypeMetadata) : Prop :=
  ∀ id ∈ roster, ∀ metadata, types.find? id = some metadata → metadata = catalogue id

/-- At least the interfaces and the methods that are known are those of the catalogue. -/
def Lists
    (catalogue : Catalogue) (roster : Finset TypeId) (types : Table TypeId TypeMetadata) : Prop :=
  ∀ id ∈ roster, ∀ metadata, types.find? id = some metadata →
    metadata.interfaces = (catalogue id).interfaces ∧ metadata.methods = (catalogue id).methods

section

variable {catalogue : Catalogue} {roster : Finset TypeId} {types : Table TypeId TypeMetadata}

theorem agrees_empty (catalogue : Catalogue) (roster : Finset TypeId) :
    catalogue.Agrees roster .empty := by
  rintro id - metadata ⟨⟩

theorem Agrees.lists (agrees : catalogue.Agrees roster types) : catalogue.Lists roster types := by
  intro id listed metadata found
  rw [agrees id listed metadata found]
  exact ⟨rfl, rfl⟩

theorem Agrees.insert
    (agrees : catalogue.Agrees roster types) (id : TypeId) :
    catalogue.Agrees roster (types.insert id (catalogue id)) := by
  intro other listed metadata found
  by_cases same : other = id
  · subst same
    rw [Table.find?_insert_self] at found
    exact (Option.some.inj found).symm
  · rw [Table.find?_insert_ne _ _ same] at found
    exact agrees other listed metadata found

theorem Lists.insert
    (lists : catalogue.Lists roster types) {id : TypeId} {metadata : TypeMetadata}
    (interfaces : metadata.interfaces = (catalogue id).interfaces)
    (methods : metadata.methods = (catalogue id).methods) :
    catalogue.Lists roster (types.insert id metadata) := by
  intro other listed known found
  by_cases same : other = id
  · subst same
    rw [Table.find?_insert_self] at found
    cases found
    exact ⟨interfaces, methods⟩
  · rw [Table.find?_insert_ne _ _ same] at found
    exact lists other listed known found

/-- A type is learned as the catalogue describes it, be it because it is asked for its superclass
or because it has none. -/
theorem load_said
    {type : TypeHandle} (asked : type.tag ≠ classTag → (catalogue type.id).superclass = none) :
    catalogue.said.load type = .ok (catalogue type.id) := by
  rw [Declarations.load_eq_ok_iff]
  refine ⟨rfl, ?_, rfl, rfl, rfl⟩
  by_cases isClass : type.tag = classTag
  · rw [if_pos isClass]
    rfl
  · rw [if_neg isClass, asked isClass]

/-- So a target that keeps to the tags of its types declares them as the catalogue says. -/
theorem declared_eq
    {kind : TypeId → UInt8} {id : TypeId}
    (asked : kind id ≠ classTag → (catalogue id).superclass = none) :
    (catalogue.declarations kind).declared id = .ok (catalogue id) := by
  have loaded : catalogue.said.load ⟨id, kind id⟩ = .ok (catalogue id) := load_said asked
  have same : (catalogue.declarations kind).load ⟨id, kind id⟩ = .ok (catalogue id) := loaded
  rw [Declarations.declared, Declarations.handle]
  exact congrArg _ same

theorem load_said_ofInterface (catalogue : Catalogue) (id : TypeId) :
    catalogue.said.load (.ofInterface id) = .ok { catalogue id with superclass := none } :=
  (Declarations.load_eq_ok_iff _ _ _).2 ⟨rfl, rfl, rfl, rfl, rfl⟩

end

end Catalogue

/-! ## A target and its types -/

/-- A target describes a type and all that lies above it as a catalogue does, finitely many types in
all and no class above itself.  Superclasses are taken for classes and interfaces for interfaces,
whatever the target reports them as. -/
structure Surroundings.Describes
    {State : Type} (link : Surroundings State) (catalogue : Catalogue) (roster : Finset TypeId)
    (start : TypeHandle) : Prop where
  closed : catalogue.Closed roster
  listed : start.id ∈ roster
  own : link.Tells catalogue.said start
  /-- A type that is not asked for its superclass has none. -/
  top : start.tag ≠ classTag → (catalogue start.id).superclass = none
  superclass : ∀ id ∈ roster, ∀ parent, catalogue.Extends id parent →
    link.Tells catalogue.said (.ofClass parent)
  interface : ∀ id ∈ roster, ∀ interface, catalogue.Names id interface →
    link.Tells catalogue.said (.ofInterface interface)

namespace Surroundings.Describes

variable {State : Type} {link : Surroundings State} {catalogue : Catalogue}
  {roster : Finset TypeId} {start : TypeHandle} {id parent interface : TypeId}

/-- Where a search starts, the whole type is learned. -/
theorem learns_start
    (describes : link.Describes catalogue roster start) :
    Learns link (catalogue.Agrees roster) start (· = catalogue start.id) :=
  learns_of_tells describes.own (Catalogue.load_said describes.top) rfl
    (fun _ agrees => agrees start.id describes.listed) fun _ agrees => agrees.insert start.id

theorem learns_superclass
    (describes : link.Describes catalogue roster start) (listed : id ∈ roster)
    (below : catalogue.Extends id parent) :
    Learns link (catalogue.Agrees roster) (.ofClass parent) (· = catalogue parent) :=
  learns_of_tells (describes.superclass id listed parent below)
    (Catalogue.load_said fun other => (other rfl).elim) rfl
    (fun _ agrees => agrees parent (describes.closed.superclass id listed parent below))
    fun _ agrees => agrees.insert parent

/-- Of an interface the search learns what it needs. -/
theorem learns_interface
    (describes : link.Describes catalogue roster start) (listed : id ∈ roster)
    (names : catalogue.Names id interface) :
    Learns link (catalogue.Lists roster) (.ofInterface interface) fun metadata =>
      metadata.interfaces = (catalogue interface).interfaces ∧
        metadata.methods = (catalogue interface).methods :=
  learns_of_tells (describes.interface id listed interface names)
    (catalogue.load_said_ofInterface interface) ⟨rfl, rfl⟩
    (fun _ lists => lists interface (describes.closed.interfaces id listed interface names))
    fun _ lists => lists.insert rfl rfl

end Surroundings.Describes

/-! ## The target of a catalogue -/

namespace Catalogue

variable {catalogue : Catalogue} {kind : TypeId → UInt8}

/-- What a target says of the types of a catalogue; it refuses whatever else it is asked. -/
def replies? (catalogue : Catalogue) (order : Order) : Option Bytes :=
  let type := catalogue (Heap.idOf order.data)
  match order.commandSet.toNat, order.command.toNat with
  | 2, 1 => some (Writer.text type.signature)
  | 2, 4 => some (Writer.counted Writer.fieldInfo type.fields)
  | 2, 5 => some (Writer.counted Writer.methodInfo type.methods)
  | 2, 10 => some (Writer.counted Writer.uint64 type.interfaces)
  | 3, 1 => some (Writer.uint64 (type.superclass.getD 0))
  | _, _ => none

/-- A target with the types of a catalogue. -/
def target (catalogue : Catalogue) : Surroundings Unit where
  send order _ :=
    (.ok (match catalogue.replies? order with
      | some data => ⟨0, 0, data⟩
      | none => ⟨0, ErrorCode.invalidObject, []⟩), ())
  enter _ _ := ()
  leave _ _ := ()

/-- A catalogue whose texts and lists fit into their prefixes. -/
structure Sendable (catalogue : Catalogue) : Prop where
  signature : ∀ id, Reader.Short (catalogue id).signature
  superclass : ∀ id parent, catalogue.Extends id parent → parent ≠ 0
  fewInterfaces : ∀ id, (catalogue id).interfaces.length < 2 ^ 31
  fewFields : ∀ id, (catalogue id).fields.length < 2 ^ 31
  fields : ∀ id, ∀ field ∈ (catalogue id).fields,
    Reader.Short field.name ∧ Reader.Short field.signature
  fewMethods : ∀ id, (catalogue id).methods.length < 2 ^ 31
  methods : ∀ id, ∀ method ∈ (catalogue id).methods,
    Reader.Short method.name ∧ Reader.Short method.signature

/-- Classes extend classes, and only interfaces are named as such. -/
structure Orderly (catalogue : Catalogue) (kind : TypeId → UInt8) : Prop where
  superclass : ∀ id parent, catalogue.Extends id parent → kind parent = classTag
  interfaces : ∀ id interface, catalogue.Names id interface → kind interface = interfaceTag

theorem told_of_replies?
    {α : Type} {call : Call α} {data : Bytes} {value : α}
    (replies : catalogue.replies? call.order = some data) (reads : call.answer.Reads data value)
    (state : Unit) : catalogue.target.told call state = .ok value := by
  show Call.conclude call
    (match catalogue.replies? call.order with | some data => _ | none => _) = _
  rw [replies]
  exact Call.conclude_of_reads reads 0

theorem Sendable.repeats
    (sendable : catalogue.Sendable) (kind : TypeId → UInt8) :
    catalogue.target.Repeats (catalogue.declarations kind) where
  signature id state := by
    apply told_of_replies? rfl
    rw [show (Call.typeSignature id).order.data = Writer.uint64 id from rfl, Heap.idOf_uint64]
    exact Reader.reads_text (sendable.signature id)
  superclass id state := by
    apply told_of_replies? rfl
    rw [show (Call.superclass id).order.data = Writer.uint64 id from rfl, Heap.idOf_uint64]
    have reads := Reader.reads_superclass ((catalogue id).superclass.getD 0)
    cases above : (catalogue id).superclass with
    | none =>
        rw [above] at reads
        exact reads
    | some parent =>
        rw [above, Option.getD_some, if_neg (sendable.superclass id parent above)] at reads
        exact reads
  interfaces id state := by
    apply told_of_replies? rfl
    rw [show (Call.interfaces id).order.data = Writer.uint64 id from rfl, Heap.idOf_uint64]
    exact Reader.reads_counted (sendable.fewInterfaces id)
      fun interface _ => Reader.codec_uint64.reads interface trivial
  fields id state := by
    apply told_of_replies? rfl
    rw [show (Call.fields id).order.data = Writer.uint64 id from rfl, Heap.idOf_uint64]
    exact Reader.reads_counted (sendable.fewFields id) fun field member =>
      Reader.reads_fieldInfo (sendable.fields id field member).1 (sendable.fields id field member).2
  methods id state := by
    apply told_of_replies? rfl
    rw [show (Call.methods id).order.data = Writer.uint64 id from rfl, Heap.idOf_uint64]
    exact Reader.reads_counted (sendable.fewMethods id) fun method member =>
      Reader.reads_methodInfo (sendable.methods id method member).1
        (sendable.methods id method member).2
  tagOfSignature := by rintro signature state found ⟨⟩
  tagOfObject := by rintro object state tag id ⟨⟩

theorem Sendable.declares
    (sendable : catalogue.Sendable) (orderly : catalogue.Orderly kind) :
    catalogue.target.Declares (catalogue.declarations kind) where
  toRepeats := sendable.repeats kind
  tagOfSuperclass := by
    intro id parent _ said
    exact orderly.superclass id parent (Except.ok.inj said)
  tagOfInterface := by
    rintro id interfaces ⟨⟩ interface names
    exact orderly.interfaces id interface names

theorem Sendable.describes
    (sendable : catalogue.Sendable) {roster : Finset TypeId} (closed : catalogue.Closed roster)
    {start : TypeHandle} (listed : start.id ∈ roster)
    (top : start.tag ≠ classTag → (catalogue start.id).superclass = none) :
    catalogue.target.Describes catalogue roster start where
  closed := closed
  listed := listed
  own := (sendable.repeats _).tells start
  top := top
  superclass _ _ _ _ := (sendable.repeats _).tells _
  interface _ _ _ _ := (sendable.repeats _).tells _

end Catalogue

end FrameEval.Remote
