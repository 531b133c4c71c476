import FrameEval.Proofs.Evaluation.Conduct
import FrameEval.Proofs.ValueCodec
import FrameEval.Proofs.Wire.Members
import FrameEval.RemoteValue.Wire
import FrameEval.Wire.Call.Invocation

/-!
# Values of declared types on the wire

A value without its tag can be read only by one who knows its type.  Where a type is declared its
descriptor says so by its first letter: a primitive is stored as one of just that kind, and any
reference as an object id.  Arguments are sent with their tags, so an invocation is read back
from its body alone, whatever the parameters are.
-/

namespace FrameEval

open Wire

/-! ## Descriptors -/

/-- A field descriptor: that of a primitive kind, of a class or of an array. -/
inductive IsDescriptor : String → Prop where
  | primitive (kind : PrimitiveKind) : IsDescriptor kind.signature
  | object (name : String) : IsDescriptor ("L" ++ (name ++ ";"))
  | array (component : String) : IsDescriptor ("[" ++ component)

namespace PrimitiveKind

theorem ofSignature?_eq_none
    {declared : String} {letter : Char} {rest : List Char}
    (text : declared.toList = letter :: rest)
    (other : letter ∈ ['L', '[']) : ofSignature? declared = none := by
  unfold ofSignature?
  rw [text]
  cases rest with
  | nil =>
      simp only [List.mem_cons, List.not_mem_nil, or_false] at other
      rcases other with rfl | rfl <;> rfl
  | cons second rest => rfl

end PrimitiveKind

theorem head?_encodeText
    (first rest : String) {byte : UInt8} (begins : (encodeText first).head? = some byte) :
    (encodeText (first ++ rest)).head? = some byte := by
  have joined : encodeText (first ++ rest) = encodeText first ++ encodeText rest := by
    show (first ++ rest).toByteArray.data.toList = _
    rw [String.toByteArray_append, ByteArray.data_append, Array.toList_append]
    rfl
  rw [joined, List.head?_append, begins]
  rfl

/-- The tag of the values of a type is the first byte of its descriptor. -/
theorem IsDescriptor.exists_tag
    {declared : String} (descriptor : IsDescriptor declared) :
    ∃ tag : Tag, (encodeText declared).head? = some tag.byte ∧
      match PrimitiveKind.ofSignature? declared with
      | some kind => tag = .primitive kind
      | none => tag.isObject = true := by
  cases descriptor with
  | primitive kind =>
      refine ⟨.primitive kind, ?_⟩
      cases kind <;> exact ⟨by decide, rfl⟩
  | object name =>
      refine ⟨.object .object, head?_encodeText _ _ (by decide), ?_⟩
      rw [PrimitiveKind.ofSignature?_eq_none (by rw [String.toList_append]; rfl) (by decide)]
      rfl
  | array component =>
      refine ⟨.object .array, head?_encodeText _ _ (by decide), ?_⟩
      rw [PrimitiveKind.ofSignature?_eq_none (by rw [String.toList_append]; rfl) (by decide)]
      rfl

/-! ## What is stored -/

namespace RemoteValue

/-- The tag under which an object was sent is one of those of objects. -/
def ProperlyTagged : RemoteValue → Prop
  | object handle => ∃ kind : ObjectKind, handle.tag = kind.tag
  | _ => True

/-- A value stored where a type is declared: a primitive of the kind, or the reference itself. -/
def StoredAs (value : RemoteValue) (declared : String) (stored : RemoteValue) : Prop :=
  match PrimitiveKind.ofSignature? declared with
  | some kind => ∃ given, stored = .primitive given ∧ given.kind = kind
  | none => stored = value ∧ value.isReference = true

theorem wellFormed_toWire
    {value : RemoteValue} (proper : value.ProperlyTagged) :
    value.toWire.WellFormed := by
  cases value with
  | primitive value =>
      exact ⟨.primitive value.kind, Tag.ofByte?_byte (.primitive value.kind),
        Value.fits_ofPrimitive_iff.2 rfl⟩
  | object handle =>
      rcases proper with ⟨kind, tagged⟩
      refine ⟨.object kind, ?_, rfl⟩
      rw [toWire, tagged]
      exact Tag.ofByte?_byte (.object kind)
  | array handle => exact ⟨.object .array, rfl, rfl⟩
  | null => exact ⟨.object .object, rfl, rfl⟩
  | void => exact ⟨.void, rfl, rfl⟩

theorem StoredAs.properlyTagged
    {value stored : RemoteValue} {declared : String} (storedAs : StoredAs value declared stored)
    (proper : value.ProperlyTagged) : stored.ProperlyTagged := by
  unfold StoredAs at storedAs
  split at storedAs
  · rcases storedAs with ⟨given, rfl, -⟩
    trivial
  · rcases storedAs with ⟨rfl, -⟩
    exact proper

theorem StoredAs.ne_void
    {value stored : RemoteValue} {declared : String} (storedAs : StoredAs value declared stored) :
    stored ≠ .void := by
  unfold StoredAs at storedAs
  split at storedAs
  · rcases storedAs with ⟨given, rfl, -⟩
    simp
  · rcases storedAs with ⟨rfl, reference⟩
    rintro rfl
    cases reference

/-- The first byte of a descriptor tells how the data of what is stored are read. -/
theorem StoredAs.reads_value
    {value stored : RemoteValue} {declared : String} (storedAs : StoredAs value declared stored)
    (descriptor : IsDescriptor declared) :
    ∃ byte, (encodeText declared).head? = some byte ∧
      (Reader.value byte).Reads (Writer.value stored.toWire) ⟨byte, stored.toWire.data⟩ := by
  rcases descriptor.exists_tag with ⟨tag, first, sort⟩
  refine ⟨tag.byte, first, ?_⟩
  have fits : Value.Fits stored.toWire.data tag := by
    unfold StoredAs at storedAs
    split at storedAs
    · next kind declares =>
      simp only [declares] at sort
      rcases storedAs with ⟨given, rfl, rfl⟩
      exact Value.fits_ofPrimitive_iff.2 sort
    · next declares =>
      simp only [declares] at sort
      rcases storedAs with ⟨rfl, reference⟩
      cases stored with
      | object | array | null => exact sort
      | primitive | void => cases reference
  have read := Reader.reads_data fits stored.toWire.tag
  unfold Reader.value
  rw [Tag.ofByte?_byte]
  exact read.map (Value.mk tag.byte)

end RemoteValue

namespace Evaluation

open Dialogue

variable {setting : Setting} {activation after : Activation} {record : Record}

theorem eq_of_ends_pure
    {α : Type} {value result : α}
    (ends : ((Pure.pure value : Evaluation α).start activation).Ends record (.ok result, after)) :
    result = value := by
  obtain ⟨-, same⟩ := (ends_done_iff _ _ _).1 ends
  cases same
  rfl

theorem not_ends_fail
    {α : Type} {error : EvalError} {result : α} :
    ¬ ((fail error : Evaluation α).start activation).Ends record (.ok result, after) := by
  intro ends
  obtain ⟨-, same⟩ := (ends_done_iff _ _ _).1 ends
  cases same

theorem storedAs_of_ends
    {value stored : RemoteValue} {declared : String}
    (ends : ((assign setting value declared).start activation).Ends record (.ok stored, after)) :
    RemoteValue.StoredAs value declared stored := by
  unfold assign at ends
  unfold RemoteValue.StoredAs
  cases declares : PrimitiveKind.ofSignature? declared with
  | some kind =>
      rw [declares] at ends
      cases value with
      | primitive given =>
          dsimp only at ends
          split at ends
          · cases cast : given.cast kind with
            | ok result =>
                rw [cast] at ends
                exact ⟨result, eq_of_ends_pure ends, Primitive.kind_cast cast⟩
            | error error =>
                rw [cast] at ends
                exact (not_ends_fail ends).elim
          · exact (not_ends_fail ends).elim
      | object | array | null | void => exact (not_ends_fail ends).elim
  | none =>
      rw [declares] at ends
      cases value with
      | null => exact ⟨eq_of_ends_pure ends, rfl⟩
      | primitive | void => exact (not_ends_fail ends).elim
      | object | array =>
          -- Whatever the target says of the type, only the value itself can come out.
          rcases ends_start_bind_iff.1 ends with
            ⟨_, _, _, stopped⟩ | ⟨_, answer, _, _, _, _, goes⟩
          · cases stopped
          · cases answer with
            | true => exact ⟨eq_of_ends_pure goes, rfl⟩
            | false => exact (not_ends_fail goes).elim

theorem sendable_of_ends_assignAll
    {arguments stored : List RemoteValue} {parameters : List String}
    (same : parameters.length = arguments.length)
    (proper : ∀ argument ∈ arguments, argument.ProperlyTagged)
    (ends : ((assignAll setting arguments parameters).start activation).Ends record
      (.ok stored, after)) :
    stored.length = arguments.length ∧ ∀ one ∈ stored, one.ProperlyTagged ∧ one ≠ .void := by
  induction arguments generalizing parameters activation after record stored with
  | nil =>
      obtain rfl := List.eq_nil_of_length_eq_zero same
      rw [eq_of_ends_pure ends]
      exact ⟨rfl, fun _ member => nomatch member⟩
  | cons argument arguments ih =>
      cases parameters with
      | nil => cases same
      | cons parameter parameters =>
          rcases ends_start_bind_iff.1 ends with
            ⟨_, _, _, stopped⟩ | ⟨_, first, _, _, _, assigned, ends⟩
          · cases stopped
          rcases ends_start_bind_iff.1 ends with
            ⟨_, _, _, stopped⟩ | ⟨_, rest, _, _, _, later, ends⟩
          · cases stopped
          rw [eq_of_ends_pure ends]
          have storedAs := storedAs_of_ends assigned
          have proper' := proper argument List.mem_cons_self
          rcases ih (by simpa using same)
            (fun one member => proper one (List.mem_cons_of_mem _ member)) later with ⟨length, rest⟩
          refine ⟨by simp [length], ?_⟩
          rintro one (_ | ⟨_, member⟩)
          · exact ⟨storedAs.properlyTagged proper', storedAs.ne_void⟩
          · exact rest one member

theorem sendable_of_ends_convertArguments
    {arguments converted : List RemoteValue} {method : MethodRef}
    (proper : ∀ argument ∈ arguments, argument.ProperlyTagged)
    (ends : ((convertArguments setting method arguments).start activation).Ends record
      (.ok converted, after)) :
    converted.length = arguments.length ∧
      ∀ one ∈ converted, one.ProperlyTagged ∧ one ≠ .void := by
  unfold convertArguments at ends
  rcases ends_start_bind_iff.1 ends with
    ⟨_, _, _, stopped⟩ | ⟨_, parameters, _, _, _, _, ends⟩
  · cases stopped
  dsimp only at ends
  split at ends
  · exact (not_ends_fail ends).elim
  · next same => exact sendable_of_ends_assignAll (not_not.1 same) proper ends

end Evaluation

/-! ## Bodies of invocations -/

namespace Wire

/-- Ids, the number of arguments, the arguments under their tags, and the options. -/
def Writer.invocationBody (ids : List UInt64) (values : List Value) (options : Int32) : Bytes :=
  (ids.map uint64).flatten ++ arguments values options

namespace Reader

/-- So many ids, the number that is written for the arguments, so many values, and options. -/
def invocationBody (ids values : Nat) : Reader (List UInt64 × Int32 × List Value × Int32) := do
  let ids ← times uint64 ids
  let count ← int32
  let values ← times tagged values
  let options ← int32
  return (ids, count, values, options)

/-- The same with as many values as the number says. -/
def countedBody (ids : Nat) : Reader (List UInt64 × List Value × Int32) := do
  let ids ← times uint64 ids
  let values ← counted tagged
  let options ← int32
  return (ids, values, options)

/-- A count is written as the word of its lowest bits. -/
theorem reads_count_word
    (count : Nat) : int32.Reads (Writer.count count) (Int32.ofNat count) := by
  have read := codec_int32.reads (Int32.ofNat count) trivial
  have digits := bigEndian_ofBigEndian (bigEndian 4 count)
  have word : (Int32.ofNat count).toUInt32.toNat = count % Nat.pow 256 4 := by simp
  rw [length_bigEndian, ofBigEndian_bigEndian, ← word] at digits
  rw [Writer.int32, digits] at read
  exact read

section Bodies

variable {values : List Value} (ids : List UInt64) (options : Int32)

theorem reads_ids :
    (times uint64 ids.length).Reads (ids.map Writer.uint64).flatten ids :=
  reads_times ids fun id _ => codec_uint64.reads id trivial

theorem reads_invocationBody
    (wellFormed : ∀ value ∈ values, value.WellFormed) :
    (invocationBody ids.length values.length).Reads (Writer.invocationBody ids values options)
      (ids, Int32.ofNat values.length, values, options) := by
  have each := reads_times values fun value member => reads_tagged (wellFormed value member)
  have last := (codec_int32.reads options trivial).map
    fun options => (ids, Int32.ofNat values.length, values, options)
  have whole : (invocationBody ids.length values.length).Reads
      ((ids.map Writer.uint64).flatten ++ (Writer.count values.length ++
        ((values.map Writer.tagged).flatten ++ Writer.int32 options)))
      (ids, Int32.ofNat values.length, values, options) :=
    (reads_ids ids).bind ((reads_count_word values.length).bind (each.bind last))
  rw [Writer.invocationBody, Writer.arguments, List.append_assoc (Writer.count _)]
  exact whole

theorem reads_countedBody
    (wellFormed : ∀ value ∈ values, value.WellFormed) (short : values.length < 2 ^ 31) :
    (countedBody ids.length).Reads (Writer.invocationBody ids values options)
      (ids, values, options) := by
  have each := reads_counted short fun value member => reads_tagged (wellFormed value member)
  have last := (codec_int32.reads options trivial).map fun options => (ids, values, options)
  exact (reads_ids ids).bind (each.bind last)

end Bodies

end Reader

section Calls

variable (receiver : ObjectId) (thread : ThreadId) (type : TypeId) (method : MethodId)
  (values : List Value) (options : Int32)

theorem data_invokeMethod :
    (Call.invokeMethod receiver thread type method values options).order.data =
      Writer.invocationBody [receiver, thread, type, method] values options := by
  simp [Call.invokeMethod, Call.running, Writer.invocationBody]

theorem data_invokeStatic :
    (Call.invokeStatic type thread method values options).order.data =
      Writer.invocationBody [type, thread, method] values options := by
  simp [Call.invokeStatic, Call.running, Writer.invocationBody]

theorem data_newInstance :
    (Call.newInstance type thread method values options).order.data =
      Writer.invocationBody [type, thread, method] values options := by
  simp [Call.newInstance, Call.running, Writer.invocationBody]

end Calls

/-- A value other than void takes a byte for its tag and at least one for its data. -/
theorem two_le_length_tagged
    {value : Value} (several : value.data ≠ .void) : 2 ≤ (Writer.tagged value).length := by
  rw [Writer.tagged, List.length_append, Writer.uint8_eq, Writer.value]
  cases data : value.data with
  | object id => simp [Writer.uint64]
  | void => exact (several data).elim
  | byte | char | float | double | int | long | short | boolean => simp [Writer.int32]

theorem two_mul_length_le
    {values : List Value} (several : ∀ value ∈ values, value.data ≠ .void) :
    2 * values.length ≤ (values.map Writer.tagged).flatten.length := by
  induction values with
  | nil => exact Nat.le_refl 0
  | cons value values ih =>
      have first := two_le_length_tagged (several value List.mem_cons_self)
      have rest := ih fun other member => several other (List.mem_cons_of_mem value member)
      simp only [List.map_cons, List.flatten_cons, List.length_append, List.length_cons]
      omega

/-- What is read back from the body of an invocation, with nothing left. -/
structure ReadBack (body : Bytes) (ids : List UInt64) (values : List Value) (options : Int32) :
    Prop where
  /-- The ids, the word of the number of the arguments, so many arguments, and the options. -/
  inOrder : Reader.invocationBody ids.length values.length body =
    (.ok (ids, Int32.ofNat values.length, values, options), [])
  /-- A body whose length a packet can state tells by itself how many arguments it has. -/
  byCount : body.length < 2 ^ 32 →
    Reader.countedBody ids.length body = (.ok (ids, values, options), [])

theorem readBack_invocationBody
    (ids : List UInt64) {values : List Value} (options : Int32)
    (wellFormed : ∀ value ∈ values, value.WellFormed)
    (several : ∀ value ∈ values, value.data ≠ .void) :
    ReadBack (Writer.invocationBody ids values options) ids values options where
  inOrder := by
    have read := Reader.reads_invocationBody ids options wellFormed []
    rwa [List.append_nil] at read
  byCount fits := by
    have many := two_mul_length_le several
    have short : values.length < 2 ^ 31 := by
      simp only [Writer.invocationBody, Writer.arguments, List.length_append] at fits
      omega
    have read := Reader.reads_countedBody ids options wellFormed short []
    rwa [List.append_nil] at read

end Wire

open Evaluation RemoteValue

/-- The values that a method takes for its parameters, as they go into an invocation. -/
theorem readBack_converted
    {setting : Setting} {method : MethodRef} {arguments converted : List RemoteValue}
    {activation after : Activation} {record : Record} (ids : List UInt64) (options : Int32)
    (proper : ∀ argument ∈ arguments, argument.ProperlyTagged)
    (ends : ((convertArguments setting method arguments).start activation).Ends record
      (.ok converted, after)) :
    ReadBack (Writer.invocationBody ids (converted.map toWire) options) ids
      (converted.map toWire) options := by
  have sendable := (sendable_of_ends_convertArguments proper ends).2
  refine readBack_invocationBody ids options (List.forall_mem_map.2 ?_) (List.forall_mem_map.2 ?_)
  · exact fun one member => wellFormed_toWire (sendable one member).1
  · intro one member
    cases one with
    | void => exact ((sendable _ member).2 rfl).elim
    | primitive value => exact Data.ofPrimitive_ne_void value
    | object | array | null => exact Data.noConfusion

/--
What is stored where a type is declared is read back from its untagged bytes under the first byte
of the descriptor.  Arguments that a method takes are read back from the body of an invocation of
any kind, with the ids before them and the options behind.
-/
theorem declared_values_are_read_back :
    (∀ (setting : Setting) (value stored : RemoteValue) (declared : String)
        (activation after : Activation) (record : Record) (suffix : Bytes),
      IsDescriptor declared →
      ((assign setting value declared).start activation).Ends record (.ok stored, after) →
        ∃ byte, (encodeText declared).head? = some byte ∧
          Reader.value byte (Writer.value stored.toWire ++ suffix) =
            (.ok ⟨byte, stored.toWire.data⟩, suffix)) ∧
    ∀ (setting : Setting) (method : MethodRef) (arguments converted : List RemoteValue)
        (activation after : Activation) (record : Record),
      (∀ argument ∈ arguments, argument.ProperlyTagged) →
      ((convertArguments setting method arguments).start activation).Ends record
        (.ok converted, after) →
        converted.length = arguments.length ∧
        ∀ (receiver : ObjectId) (thread : ThreadId) (type : TypeId) (member : MethodId)
            (options : Int32),
          ReadBack (Call.invokeMethod receiver thread type member (converted.map toWire)
              options).order.data
            [receiver, thread, type, member] (converted.map toWire) options ∧
          ReadBack (Call.invokeStatic type thread member (converted.map toWire)
              options).order.data
            [type, thread, member] (converted.map toWire) options ∧
          ReadBack (Call.newInstance type thread member (converted.map toWire)
              options).order.data
            [type, thread, member] (converted.map toWire) options := by
  constructor
  · intro setting value stored declared activation after record suffix descriptor ends
    rcases (storedAs_of_ends ends).reads_value descriptor with ⟨byte, first, reads⟩
    exact ⟨byte, first, reads suffix⟩
  · intro setting method arguments converted activation after record proper ends
    refine ⟨(sendable_of_ends_convertArguments proper ends).1, ?_⟩
    intro receiver thread type member options
    have read := fun ids => readBack_converted ids options proper ends
    refine ⟨?_, ?_, ?_⟩
    · rw [data_invokeMethod]
      exact read [receiver, thread, type, member]
    · rw [data_invokeStatic]
      exact read [type, thread, member]
    · rw [data_newInstance]
      exact read [type, thread, member]

/-- A character, and a thread that is an object of a class. -/
def givenPair : List RemoteValue :=
  [.primitive (.char 65), .object ⟨3, ObjectKind.thread.tag⟩]

/-- The pair for a method whose parameters are a `long` and an object of that class. -/
def storedPair : List RemoteValue :=
  [.primitive (.long 65), .object ⟨3, ObjectKind.thread.tag⟩]

/-- The class of the thread, as the target tells it. -/
def threadFound : Record :=
  [success (.typeSignature (.object ⟨3, ObjectKind.thread.tag⟩)) "LShop;"]

/-- A character that is stored as a `long`, and one as an argument before a thread. -/
theorem character_is_read_back_as_long :
    (IsDescriptor "J" ∧
      ((assign ⟨⟨1, 0, ⟨1, 2, 3, 4⟩, .empty⟩, 2⟩ (.primitive (.char 65)) "J").start
        ⟨7, .empty⟩).Ends [] (.ok (.primitive (.long 65)), ⟨7, .empty⟩) ∧
      ∃ byte, (encodeText "J").head? = some byte ∧
        Reader.value byte ([0, 0, 0, 0, 0, 0, 0, 65] ++ [1, 2]) =
          (.ok ⟨byte, .long 65⟩, [1, 2])) ∧
    (∀ argument ∈ givenPair, argument.ProperlyTagged) ∧
    ((convertArguments ⟨⟨1, 0, ⟨1, 2, 3, 4⟩, .empty⟩, 2⟩ ⟨5, 6, "put", "(JLShop;)V", true⟩
      givenPair).start ⟨7, .empty⟩).Ends threadFound (.ok storedPair, ⟨7, .empty⟩) ∧
    ReadBack (Call.invokeStatic 5 1 6 (storedPair.map toWire) 0).order.data
      [5, 1, 6] (storedPair.map toWire) 0 := by
  have assigned : ((assign ⟨⟨1, 0, ⟨1, 2, 3, 4⟩, .empty⟩, 2⟩ (.primitive (.char 65)) "J").start
      ⟨7, .empty⟩).Ends [] (.ok (.primitive (.long 65)), ⟨7, .empty⟩) := .done
  have proper : ∀ argument ∈ givenPair, argument.ProperlyTagged := by
    intro argument member
    simp only [givenPair, List.mem_cons, List.not_mem_nil, or_false] at member
    rcases member with rfl | rfl
    · trivial
    · exact ⟨.thread, rfl⟩
  have converted : ((convertArguments ⟨⟨1, 0, ⟨1, 2, 3, 4⟩, .empty⟩, 2⟩
      ⟨5, 6, "put", "(JLShop;)V", true⟩ givenPair).start ⟨7, .empty⟩).Ends threadFound
      (.ok storedPair, ⟨7, .empty⟩) := .ask .done
  have read := declared_values_are_read_back.1 _ _ _ _ _ _ _ [1, 2] (.primitive .long) assigned
  have body := (declared_values_are_read_back.2 _ _ _ _ _ _ _ proper converted).2 0 1 5 6 0
  exact ⟨⟨.primitive .long, assigned, read⟩, proper, converted, body.2.1⟩

end FrameEval
