import FrameEval.Proofs.Wire.Rows
import FrameEval.Wire.Call.Thread

/-!
# Replies that hold lists

Eleven calls ask for a list.  The body of the reply has a heading, a number, and then the items.
Mostly the heading is empty; that of a variable table is the size of the arguments, and that of
the elements of an array is a tag, which says whether every element has a tag of its own.

Whatever the list, its reply is read as a whole: what comes out is the row of all the items that
the number announces, and a body in which they are not there is refused as malformed.
-/

namespace FrameEval.Wire

namespace Writer

/-- A frame of a thread. -/
def frameInfo (frame : FrameInfo) : Bytes :=
  uint64 frame.id ++ location frame.location

/-- An entry of a variable table. -/
def tableEntry (entry : Variable) : Bytes :=
  uint64 entry.codeIndex ++ text entry.name ++ text entry.signature ++ uint32 entry.length ++
    uint32 entry.slot

end Writer

namespace Reader

theorem reads_frameInfo (frame : FrameInfo) :
    frameInfo.Reads (Writer.frameInfo frame) frame :=
  (codec_uint64.reads frame.id trivial).bind
    ((reads_location frame.location).map (FrameInfo.mk frame.id))

theorem reads_tableEntry
    {entry : Variable} (name : Short entry.name) (signature : Short entry.signature) :
    tableEntry.Reads (Writer.tableEntry entry) entry := by
  have whole : tableEntry.Reads (Writer.uint64 entry.codeIndex ++ (Writer.text entry.name ++
      (Writer.text entry.signature ++ (Writer.uint32 entry.length ++
        Writer.uint32 entry.slot)))) entry :=
    (codec_uint64.reads entry.codeIndex trivial).bind ((reads_text name).bind
      ((reads_text signature).bind ((codec_uint32.reads entry.length trivial).bind
        ((codec_uint32.reads entry.slot trivial).map
          (Variable.mk entry.codeIndex entry.name entry.signature entry.length)))))
  simp only [← List.append_assoc] at whole
  exact whole

theorem reads_value
    {tag : Tag} {value : Value} (under : value.tag = tag.byte) (wellFormed : value.WellFormed) :
    (Reader.value tag.byte).Reads (Writer.value value) value := by
  rcases wellFormed with ⟨known, found, fits⟩
  rw [← under]
  unfold Reader.value
  rw [found]
  exact (reads_data fits value.tag).map (Value.mk value.tag)

/-- The tag of a known byte. -/
def knownTag (byte : UInt8) : Reader Tag :=
  match Tag.ofByte? byte with
  | some tag => return tag
  | none => fail s!"Unknown array region tag: {byte.toNat}"

/-- The tag over the elements of an array. -/
def elementTag : Reader Tag := do
  knownTag (← uint8)

theorem codec_elementTag : Codec elementTag (fun tag => Writer.uint8 tag.byte) fun _ => True where
  reads := by
    intro tag _
    have known : (knownTag tag.byte).Reads [] tag := by
      unfold knownTag
      rw [Tag.ofByte?_byte]
      exact reads_pure tag
    have read := (codec_uint8.reads tag.byte trivial).bind known
    rw [List.append_nil] at read
    exact read
  writes := by
    intro bytes tag rest read
    rcases bind_eq_ok_iff.1 read with ⟨byte, between, head, under⟩
    rcases codec_uint8.writes head with ⟨-, rfl⟩
    unfold knownTag at under
    cases known : Tag.ofByte? byte with
    | none =>
        rw [known] at under
        cases under
    | some found =>
        rw [known] at under
        cases under
        exact ⟨trivial, by rw [Tag.byte_of_ofByte? known]⟩

theorem strict_elementTag : elementTag.Strict := by
  refine strict_uint8.bind fun byte => ?_
  unfold knownTag
  cases Tag.ofByte? byte with
  | some tag => exact strict_pure tag
  | none => exact strict_fail _

end Reader

/-! ## Formats of items -/

/-- How an item is written and read. -/
structure Format (α : Type) where
  read : Reader α
  write : α → Bytes
  /-- The items that can be written. -/
  Writable : α → Prop
  reads : ∀ item, Writable item → read.Reads (write item) item
  strict : read.Strict

namespace Format

open Reader

def identifier : Format UInt64 where
  read := uint64
  write := Writer.uint64
  Writable _ := True
  reads id _ := codec_uint64.reads id trivial
  strict := strict_uint64

def frame : Format FrameInfo where
  read := frameInfo
  write := Writer.frameInfo
  Writable _ := True
  reads frame _ := reads_frameInfo frame
  strict := strict_uint64.bind fun _ => strict_location.map _

/-- A class that was looked up by its signature, which is not in the reply. -/
def classInfo (signature : String) : Format ClassInfo where
  read := Reader.classInfo signature
  write := Writer.classInfo
  Writable entry := entry.signature = signature
  reads entry same := same ▸ reads_classInfo entry
  strict := strict_uint8.bind fun _ => strict_uint64.bind fun _ => strict_int32.map _

def field : Format FieldInfo where
  read := fieldInfo
  write := Writer.fieldInfo
  Writable field := Short field.name ∧ Short field.signature
  reads _ short := reads_fieldInfo short.1 short.2
  strict := strict_uint64.bind fun _ => strict_text.bind fun _ => strict_text.bind fun _ =>
    strict_int32.map _

def method : Format MethodInfo where
  read := methodInfo
  write := Writer.methodInfo
  Writable method := Short method.name ∧ Short method.signature
  reads _ short := reads_methodInfo short.1 short.2
  strict := strict_uint64.bind fun _ => strict_text.bind fun _ => strict_text.bind fun _ =>
    strict_int32.map _

def tableEntry : Format Variable where
  read := Reader.tableEntry
  write := Writer.tableEntry
  Writable entry := Short entry.name ∧ Short entry.signature
  reads _ short := reads_tableEntry short.1 short.2
  strict := strict_uint64.bind fun _ => strict_text.bind fun _ => strict_text.bind fun _ =>
    strict_uint32.bind fun _ => strict_uint32.map _

/-- A value after its own tag. -/
def tagged : Format Value where
  read := Reader.tagged
  write := Writer.tagged
  Writable := Value.WellFormed
  reads _ wellFormed := reads_tagged wellFormed
  strict := strict_tagged

/-- A value whose tag is known before. -/
def untagged (tag : Tag) : Format Value where
  read := Reader.value tag.byte
  write := Writer.value
  Writable value := value.tag = tag.byte ∧ value.WellFormed
  reads _ fits := reads_value fits.1 fits.2
  strict := strict_value tag.byte

end Format

/-! ## Forms of lists -/

/-- What stands before the number of items, and how each of them is written after it. -/
structure ListForm (α : Type) where
  Heading : Type
  heading : Reader Heading
  spell : Heading → Bytes
  codec : Reader.Codec heading spell fun _ => True
  strict : heading.Strict
  item : Heading → Format α

namespace ListForm

variable {α : Type}

/-- Nothing stands before the number. -/
def plain (item : Format α) : ListForm α where
  Heading := Unit
  heading := return ()
  spell _ := []
  codec :=
    { reads := fun heading _ => Reader.reads_pure heading
      writes := by
        rintro bytes heading rest ⟨⟩
        exact ⟨trivial, rfl⟩ }
  strict := Reader.strict_pure ()
  item _ := item

/-- A variable table, after the size of the arguments. -/
def table : ListForm Variable where
  Heading := Int32
  heading := Reader.int32
  spell := Writer.int32
  codec := Reader.codec_int32
  strict := Reader.strict_int32
  item _ := Format.tableEntry

/-- The elements of an array under one tag.  Under that of a kind of objects each element has its
own, since it may be of a special kind. -/
def elements : ListForm Value where
  Heading := Tag
  heading := Reader.elementTag
  spell tag := Writer.uint8 tag.byte
  codec := Reader.codec_elementTag
  strict := Reader.strict_elementTag
  item tag := if tag.isObject then .tagged else .untagged tag

/-- Reading a list of a form. -/
def reader (form : ListForm α) : Reader (List α) := do
  let heading ← form.heading
  Reader.counted (form.item heading).read

/-- The bytes of a list of a form. -/
def write (form : ListForm α) (heading : form.Heading) (list : List α) : Bytes :=
  form.spell heading ++ Writer.counted (form.item heading).write list

/-- A body has a heading, a number and a row of just so many items, which leaves the rest. -/
def Holds (form : ListForm α) (body : Bytes) (list : List α) (rest : Bytes) : Prop :=
  ∃ (heading : form.Heading) (count : Int32) (items : Bytes),
    body = form.spell heading ++ (Writer.int32 count ++ items) ∧
      list.length = count.toInt.toNat ∧ Reader.Row (form.item heading).read items list rest

variable {form : ListForm α} {body rest : Bytes} {list : List α}

theorem reader_eq_ok_iff : form.reader body = (.ok list, rest) ↔ form.Holds body list rest := by
  constructor
  · intro read
    rcases Reader.bind_eq_ok_iff.1 read with ⟨heading, between, head, read⟩
    rcases Reader.counted_eq_ok_iff.1 read with ⟨count, items, rfl, length, row⟩
    exact ⟨heading, count, items, (form.codec.writes head).2, length, row⟩
  · rintro ⟨heading, count, items, rfl, length, row⟩
    have head := form.codec.reads heading trivial (Writer.int32 count ++ items)
    have read := Reader.counted_eq_ok_iff.2 ⟨count, items, rfl, length, row⟩
    exact Reader.bind_eq_ok_iff.2 ⟨heading, _, head, read⟩

theorem strict_reader (form : ListForm α) : form.reader.Strict :=
  form.strict.bind fun heading => Reader.strict_counted (form.item heading).strict

theorem reads_write
    {heading : form.Heading} (short : list.length < 2 ^ 31)
    (writable : ∀ one ∈ list, (form.item heading).Writable one) :
    form.reader.Reads (form.write heading list) list := by
  have items := Reader.reads_counted short fun one member =>
    (form.item heading).reads one (writable one member)
  exact (form.codec.reads heading trivial).bind items

/-- A list that breaks off is refused. -/
theorem refuses_broken
    {missing : Bytes} (short : missing ≠ []) (whole : form.Holds (body ++ missing) list []) :
    ∃ detail, form.reader.run body = .error (.protocol detail) := by
  have strict := form.strict_reader
  rcases strict.takes (reader_eq_ok_iff.2 whole) with ⟨taken, same, reads⟩
  rw [List.append_nil] at same
  rcases strict.fails_of_prefix (same ▸ reads) short with ⟨error, failed⟩
  rcases strict.run_cases body with ⟨value, read⟩ | refused
  · cases failed.symm.trans read
  · exact refused

end ListForm

/-! ## The calls that ask for lists -/

/-- The calls that ask for a list, by what the list holds. -/
inductive Listing : Type → Type where
  | frames (thread : ThreadId) (first length : Int32) : Listing FrameInfo
  | allThreads : Listing ThreadId
  | classesBySignature (signature : String) : Listing ClassInfo
  | methods (type : TypeId) : Listing MethodInfo
  | fields (type : TypeId) : Listing FieldInfo
  | interfaces (type : TypeId) : Listing TypeId
  | staticValues (type : TypeId) (fields : List FieldId) : Listing Value
  | objectValues (object : ObjectId) (fields : List FieldId) : Listing Value
  | frameValues (thread : ThreadId) (frame : FrameId) (slots : List VariableSlot) : Listing Value
  | variableTable (type : TypeId) (method : MethodId) : Listing Variable
  | arrayValues (array : ObjectId) (first length : Int32) : Listing Value

namespace Listing

variable {α : Type}

def call : {α : Type} → Listing α → Call (List α)
  | _, frames thread first length => Call.frames thread first length
  | _, allThreads => Call.allThreads
  | _, classesBySignature signature => Call.classesBySignature signature
  | _, methods type => Call.methods type
  | _, fields type => Call.fields type
  | _, interfaces type => Call.interfaces type
  | _, staticValues type members => Call.staticValues type members
  | _, objectValues object members => Call.objectValues object members
  | _, frameValues thread frame slots => Call.frameValues thread frame slots
  | _, variableTable type method => Call.variableTable type method
  | _, arrayValues array first length => Call.arrayValues array first length

/-- The form of the list in the reply. -/
def form : {α : Type} → Listing α → ListForm α
  | _, frames _ _ _ => .plain .frame
  | _, allThreads => .plain .identifier
  | _, classesBySignature signature => .plain (.classInfo signature)
  | _, methods _ => .plain .method
  | _, fields _ => .plain .field
  | _, interfaces _ => .plain .identifier
  | _, staticValues _ _ => .plain .tagged
  | _, objectValues _ _ => .plain .tagged
  | _, frameValues _ _ _ => .plain .tagged
  | _, variableTable _ _ => .table
  | _, arrayValues _ _ _ => .elements

theorem elements_eq : Reader.elements = ListForm.elements.reader := by
  funext bytes
  show Reader.bind Reader.uint8 _ bytes =
    Reader.bind (Reader.bind Reader.uint8 Reader.knownTag) _ bytes
  unfold Reader.bind
  rcases Reader.uint8 bytes with ⟨_ | byte, rest⟩
  · rfl
  · dsimp only
    unfold Reader.knownTag
    cases known : Tag.ofByte? byte with
    | none => rfl
    | some tag =>
        obtain rfl := Tag.byte_of_ofByte? known
        cases tag <;> rfl

theorem answer_call (listing : Listing α) : listing.call.answer = listing.form.reader := by
  cases listing with
  | arrayValues array first length => exact elements_eq
  | _ => rfl

theorem conclude_eq (listing : Listing α) (id : PacketId) (body : Bytes) :
    listing.call.conclude ⟨id, 0, body⟩ = listing.form.reader.run body := by
  show listing.call.answer.run body = _
  rw [answer_call]

end Listing

/-- An accepted reply to a call for a list is that list just if its body holds it: a row of as many
items as the number before them says.  Any other body is refused as malformed, and so is one that
breaks off within a list.  What is laid out in the form of the call is read back, whatever
follows. -/
theorem lists_are_complete
    {α : Type} (listing : Listing α) (id : PacketId) (body : Bytes) :
    (∀ list, listing.call.conclude ⟨id, 0, body⟩ = .ok list ↔
        ∃ rest, listing.form.Holds body list rest) ∧
      ((∀ list rest, ¬ listing.form.Holds body list rest) →
        ∃ detail, listing.call.conclude ⟨id, 0, body⟩ = .error (.protocol detail)) ∧
      (∀ missing list, missing ≠ [] → listing.form.Holds (body ++ missing) list [] →
        ∃ detail, listing.call.conclude ⟨id, 0, body⟩ = .error (.protocol detail)) ∧
      ∀ heading list rest, list.length < 2 ^ 31 →
        (∀ item ∈ list, (listing.form.item heading).Writable item) →
        body = listing.form.write heading list ++ rest →
          listing.call.conclude ⟨id, 0, body⟩ = .ok list := by
  rw [listing.conclude_eq]
  have decoded (list : List α) : listing.form.reader.run body = .ok list ↔
      ∃ rest, listing.form.Holds body list rest := by
    simp only [← ListForm.reader_eq_ok_iff]
    constructor
    · intro read
      exact ⟨(listing.form.reader body).2, Prod.ext read rfl⟩
    · rintro ⟨rest, read⟩
      exact congrArg Prod.fst read
  refine ⟨decoded, ?_, ?_, ?_⟩
  · intro none
    rcases listing.form.strict_reader.run_cases body with ⟨list, read⟩ | refused
    · rcases (decoded list).1 read with ⟨rest, holds⟩
      exact (none list rest holds).elim
    · exact refused
  · intro missing list short whole
    exact ListForm.refuses_broken short whole
  · rintro heading list rest short writable rfl
    exact congrArg Prod.fst (ListForm.reads_write short writable rest)

/-- Two variables of a method. -/
def twoVariables : List Variable :=
  [⟨0, "n", "I", 9, 1⟩, ⟨4, "é", "[J", 5, 2⟩]

/-- The elements of an array of objects: a string and, under a tag of its own, a number. -/
def mixedElements : Bytes :=
  [76, 0, 0, 0, 2, 115, 0, 0, 0, 0, 0, 0, 0, 9, 73, 0, 0, 0]

/-- A variable table is read back; elements that break off are refused, and so is an unknown tag. -/
theorem variables_are_read_back :
    (twoVariables.length < 2 ^ 31 ∧
      (∀ entry ∈ twoVariables, Format.tableEntry.Writable entry) ∧
      (Call.variableTable 3 4).conclude
          ⟨7, 0, ListForm.table.write (1 : Int32) twoVariables ++ [0]⟩ = .ok twoVariables) ∧
    (ListForm.elements.Holds (mixedElements ++ [5])
        [.ofObject .string 9, .ofPrimitive (.int 5)] [] ∧
      ∃ detail, (Call.arrayValues 2 0 2).conclude ⟨8, 0, mixedElements⟩ =
        .error (.protocol detail)) ∧
    (∀ list rest, ¬ ListForm.elements.Holds [63, 0, 0, 0, 0] list rest) ∧
    ∃ detail, (Call.arrayValues 2 0 0).conclude ⟨9, 0, [63, 0, 0, 0, 0]⟩ =
      .error (.protocol detail) := by
  have writable : ∀ entry ∈ twoVariables, Format.tableEntry.Writable entry := by
    intro entry member
    simp only [twoVariables, List.mem_cons, List.not_mem_nil, or_false] at member
    rcases member with rfl | rfl <;> exact ⟨by decide, by decide⟩
  have whole : ListForm.elements.Holds (mixedElements ++ [5])
      [.ofObject .string 9, .ofPrimitive (.int 5)] [] :=
    ListForm.reader_eq_ok_iff.1 rfl
  have unknown : ∀ list rest, ¬ ListForm.elements.Holds [63, 0, 0, 0, 0] list rest := by
    intro list rest holds
    have read := ListForm.reader_eq_ok_iff.2 holds
    cases congrArg Prod.fst read
  refine ⟨⟨by decide, writable, ?_⟩, ⟨whole, ?_⟩, unknown, ?_⟩
  · exact (lists_are_complete (.variableTable 3 4) 7 _).2.2.2 (1 : Int32) twoVariables [0]
      (by decide) writable rfl
  · exact (lists_are_complete (.arrayValues 2 0 2) 8 mixedElements).2.2.1 [5] _ (by decide) whole
  · exact (lists_are_complete (.arrayValues 2 0 0) 9 _).2.1 unknown

end FrameEval.Wire
