import FrameEval.Proofs.Wire.Reading
import FrameEval.Wire.Call.Object
import FrameEval.Wire.Call.Target
import Mathlib.Algebra.Group.Nat.Defs

/-!
# What a target says about types, on the wire

The replies that describe types and their members, each with the bytes that its reader takes.
-/

namespace FrameEval.Wire

namespace Writer

/-- A declared field. -/
def fieldInfo (field : FieldInfo) : Bytes :=
  uint64 field.id ++ text field.name ++ text field.signature ++ int32 field.modifiers

/-- A declared method. -/
def methodInfo (method : MethodInfo) : Bytes :=
  uint64 method.id ++ text method.name ++ text method.signature ++ int32 method.modifiers

/-- A class that was looked up by its signature. -/
def classInfo (entry : ClassInfo) : Bytes :=
  uint8 entry.typeTag ++ uint64 entry.id ++ int32 entry.status

/-- A list after its length. -/
def counted {α : Type} (write : α → Bytes) (items : List α) : Bytes :=
  count items.length ++ (items.map write).flatten

end Writer

namespace Reader

variable {α : Type}

theorem reads_times
    {item : Reader α} {write : α → Bytes} (items : List α)
    (reads : ∀ one ∈ items, item.Reads (write one) one) :
    (times item items.length).Reads (items.map write).flatten items := by
  induction items with
  | nil => exact reads_pure _
  | cons first rest ih =>
      have later := ih fun one member => reads one (List.mem_cons_of_mem first member)
      exact (reads first List.mem_cons_self).bind (later.map (first :: ·))

/-- A small count is read back as a signed word. -/
theorem reads_count
    {length : Nat} (short : length < 2 ^ 31) :
    ∃ count : Int32, count.toInt.toNat = length ∧ int32.Reads (Writer.count length) count := by
  refine ⟨Int32.ofNat length, ?_, ?_⟩
  · rw [Int32.toInt_ofNat_of_lt short, Int.toNat_natCast]
  · have read := codec_int32.reads (Int32.ofNat length) trivial
    have word : (Int32.ofNat length).toUInt32.toNat = length := by
      simp
      omega
    rw [Writer.int32, word] at read
    exact read

/-- A list is read back if its length fits into its prefix. -/
theorem reads_counted
    {item : Reader α} {write : α → Bytes} {items : List α} (short : items.length < 2 ^ 31)
    (reads : ∀ one ∈ items, item.Reads (write one) one) :
    (counted item).Reads (Writer.counted write items) items := by
  rcases reads_count short with ⟨count, number, counts⟩
  have all := reads_times items reads
  rw [← number] at all
  exact counts.bind all

/-- A text whose length fits into its prefix. -/
def Short (value : String) : Prop :=
  (encodeText value).length < UInt32.size

instance (value : String) : Decidable (Short value) :=
  inferInstanceAs (Decidable ((encodeText value).length < UInt32.size))

theorem reads_typeReference (tag : UInt8) (id : TypeId) :
    typeReference.Reads (Writer.uint8 tag ++ Writer.uint64 id) (tag, id) :=
  (codec_uint8.reads tag trivial).bind ((codec_uint64.reads id trivial).map (Prod.mk tag))

theorem reads_superclass (id : TypeId) :
    superclass.Reads (Writer.uint64 id) (if id = 0 then none else some id) :=
  (codec_uint64.reads id trivial).map fun id => if id = 0 then none else some id

theorem reads_fieldInfo
    {field : FieldInfo} (name : Short field.name) (signature : Short field.signature) :
    fieldInfo.Reads (Writer.fieldInfo field) field := by
  have whole : fieldInfo.Reads (Writer.uint64 field.id ++ (Writer.text field.name ++
      (Writer.text field.signature ++ Writer.int32 field.modifiers))) field :=
    (codec_uint64.reads field.id trivial).bind ((reads_text name).bind
      ((reads_text signature).bind ((codec_int32.reads field.modifiers trivial).map
        (FieldInfo.mk field.id field.name field.signature))))
  simp only [← List.append_assoc] at whole
  exact whole

theorem reads_methodInfo
    {method : MethodInfo} (name : Short method.name) (signature : Short method.signature) :
    methodInfo.Reads (Writer.methodInfo method) method := by
  have whole : methodInfo.Reads (Writer.uint64 method.id ++ (Writer.text method.name ++
      (Writer.text method.signature ++ Writer.int32 method.modifiers))) method :=
    (codec_uint64.reads method.id trivial).bind ((reads_text name).bind
      ((reads_text signature).bind ((codec_int32.reads method.modifiers trivial).map
        (MethodInfo.mk method.id method.name method.signature))))
  simp only [← List.append_assoc] at whole
  exact whole

theorem reads_classInfo (entry : ClassInfo) :
    (classInfo entry.signature).Reads (Writer.classInfo entry) entry := by
  have whole : (classInfo entry.signature).Reads (Writer.uint8 entry.typeTag ++
      (Writer.uint64 entry.id ++ Writer.int32 entry.status)) entry :=
    (codec_uint8.reads entry.typeTag trivial).bind ((codec_uint64.reads entry.id trivial).bind
      ((codec_int32.reads entry.status trivial).map
        (ClassInfo.mk entry.typeTag entry.id entry.signature)))
  simp only [← List.append_assoc] at whole
  exact whole

end Reader

/-- A call concludes from an accepted reply what its reader makes of the data. -/
theorem Call.conclude_of_reads
    {α : Type} {call : Call α} {bytes : Bytes} {value : α} (reads : call.answer.Reads bytes value)
    (id : PacketId) : call.conclude ⟨id, 0, bytes⟩ = .ok value := by
  have read := reads []
  rw [List.append_nil] at read
  show (call.answer bytes).1 = _
  rw [read]

end FrameEval.Wire
