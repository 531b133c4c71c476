import FrameEval.Proofs.EventLayout
import FrameEval.Proofs.Wire.Rows

/-!
# Truncated buffers

A reader looks at nothing but the bytes that it takes, so what follows them makes no difference,
and a buffer that breaks off within them is refused.  It takes them from the front, also when it
fails in the end: a piece that is not there is not taken, and what is left is the end of the
buffer.
-/

namespace FrameEval.Wire

namespace Reader

variable {α β : Type}

/-! ## What is left -/

/-- What a reader leaves is the end of its buffer, whether it succeeds or not. -/
def Leaves (reader : Reader α) : Prop :=
  ∀ bytes, (reader bytes).2 <:+ bytes

theorem leaves_pure (value : α) : (Pure.pure value : Reader α).Leaves :=
  fun bytes => List.suffix_refl bytes

theorem leaves_fail (detail : String) : (fail detail : Reader α).Leaves :=
  fun bytes => List.suffix_refl bytes

theorem Leaves.bind
    {first : Reader α} {second : α → Reader β} (leaves : first.Leaves)
    (leaves' : ∀ value, (second value).Leaves) :
    (first >>= second).Leaves := by
  intro bytes
  show (Reader.bind first second bytes).2 <:+ bytes
  unfold Reader.bind
  have taken := leaves bytes
  cases outcome : first bytes with
  | mk result between =>
      rw [outcome] at taken
      cases result with
      | error error => exact taken
      | ok value => exact (leaves' value between).trans taken

theorem Leaves.map
    {reader : Reader α} (leaves : reader.Leaves) (pack : α → β) :
    (do return pack (← reader)).Leaves :=
  leaves.bind fun value => leaves_pure (pack value)

theorem leaves_word (width : Nat) (what : String) :
    (word width what width (Nat.le_refl width)).Leaves := by
  intro bytes
  rcases Nat.lt_or_ge bytes.length width with short | enough
  · simpa only [word_of_lt short] using List.suffix_refl bytes
  · rw [word_of_le enough]
    exact List.drop_suffix width bytes

theorem leaves_textBytes (length : Nat) : (textBytes length).Leaves := by
  intro bytes
  rcases Nat.lt_or_ge bytes.length length with short | enough
  · simpa only [textBytes_of_lt short] using List.suffix_refl bytes
  · rw [textBytes_of_le enough]
    exact List.drop_suffix length bytes

theorem leaves_uint8 : uint8.Leaves :=
  (leaves_word 1 _).map UInt8.ofNat

theorem leaves_uint32 : uint32.Leaves :=
  (leaves_word 4 _).map UInt32.ofNat

theorem leaves_int32 : int32.Leaves :=
  (leaves_word 4 _).map fun number => (UInt32.ofNat number).toInt32

theorem leaves_uint64 : uint64.Leaves :=
  (leaves_word 8 _).map UInt64.ofNat

theorem leaves_text : text.Leaves := by
  refine (leaves_word 4 _).bind fun length => (leaves_textBytes length).bind fun bytes => ?_
  cases decodeText bytes with
  | ok text => exact leaves_pure text
  | error flaw => exact leaves_fail _

theorem leaves_location : location.Leaves :=
  leaves_uint8.bind fun _ => leaves_uint64.bind fun _ => leaves_uint64.bind fun _ =>
    leaves_uint64.map _

theorem leaves_data (tag : Tag) : (data tag).Leaves := by
  cases tag with
  | primitive kind =>
      obtain ⟨what, same⟩ := data_primitive kind
      rw [same]
      exact (leaves_word kind.width what).map _
  | object kind => exact leaves_uint64.map Data.object
  | void => exact leaves_pure Data.void

theorem leaves_value (byte : UInt8) : (value byte).Leaves := by
  unfold value
  cases Tag.ofByte? byte with
  | some tag => exact (leaves_data tag).map (Value.mk byte)
  | none => exact leaves_fail _

theorem leaves_tagged : tagged.Leaves :=
  leaves_uint8.bind leaves_value

theorem leaves_taggedObject : taggedObject.Leaves :=
  leaves_uint8.bind fun _ => leaves_uint64.map _

/-! ## What is taken -/

/-- A reader depends on the bytes that it takes, and it needs all of them. -/
structure Frugal (reader : Reader α) : Prop where
  leaves : reader.Leaves
  takes : ∀ {bytes value rest}, reader bytes = (.ok value, rest) →
    ∃ taken, bytes = taken ++ rest ∧
      (∀ more, reader (bytes ++ more) = (.ok value, rest ++ more)) ∧
      ∀ part missing, taken = part ++ missing → missing ≠ [] →
        ∃ error, reader.run part = .error error

theorem Local.frugal
    {reader : Reader α} (near : reader.Local) (leaves : reader.Leaves) : reader.Frugal where
  leaves := leaves
  takes := by
    intro bytes value rest read
    obtain ⟨taken, rfl, reads⟩ := near.takes read
    refine ⟨taken, rfl, fun more => ?_, ?_⟩
    · rw [List.append_assoc]
      exact reads (rest ++ more)
    · rintro part missing rfl short
      exact near.fails_of_prefix reads short

/-- What a whole buffer is read as does not change when bytes are added. -/
theorem Local.run_append
    {reader : Reader α} (near : reader.Local) {bytes : Bytes} {value : α}
    (read : reader.run bytes = .ok value) (more : Bytes) :
    reader.run (bytes ++ more) = .ok value := by
  obtain ⟨taken, whole, reads⟩ := near.takes (Prod.ext read rfl)
  rw [whole, List.append_assoc]
  exact congrArg Prod.fst (reads _)

end Reader

/-- Every reader of the client takes bytes from the front of its buffer and no others: it does the
same whatever follows them, it fails when some of them are missing, and what is left is the end of
the buffer even if it fails.  A set of events is read the same whatever follows it. -/
theorem truncation_is_detected :
    Reader.uint8.Frugal ∧ Reader.uint32.Frugal ∧ Reader.int32.Frugal ∧ Reader.uint64.Frugal ∧
      Reader.text.Frugal ∧ Reader.location.Frugal ∧ (∀ tag, (Reader.value tag).Frugal) ∧
      Reader.tagged.Frugal ∧ Reader.taggedObject.Frugal ∧
      ∀ bytes set, EventSet.ofBytes bytes = .ok set →
        ∀ more, EventSet.ofBytes (bytes ++ more) = .ok set := by
  open Reader in
  refine ⟨strict_uint8.toLocal.frugal leaves_uint8, strict_uint32.toLocal.frugal leaves_uint32,
    strict_int32.toLocal.frugal leaves_int32, strict_uint64.toLocal.frugal leaves_uint64,
    local_text.frugal leaves_text, local_location.frugal leaves_location,
    fun tag => (strict_value tag).toLocal.frugal (leaves_value tag),
    strict_tagged.toLocal.frugal leaves_tagged, local_taggedObject.frugal leaves_taggedObject, ?_⟩
  intro bytes set read more
  exact local_eventSet.run_append read more

/-- The end of the target is read before the bytes of something else, and so is a text; without its
last byte the text is refused. -/
theorem death_is_read_before_more :
    (EventSet.ofBytes [2, 0, 0, 0, 1, 99, 0, 0, 0, 5] = .ok ⟨.all, [⟨99, 5, .vmDeath⟩]⟩ ∧
      EventSet.ofBytes ([2, 0, 0, 0, 1, 99, 0, 0, 0, 5] ++ [90, 0]) =
        .ok ⟨.all, [⟨99, 5, .vmDeath⟩]⟩) ∧
    Reader.text [0, 0, 0, 3, 110, 195, 169, 1] = (.ok "né", [1]) ∧
    Reader.text ([0, 0, 0, 3, 110, 195, 169, 1] ++ [2]) = (.ok "né", [1] ++ [2]) ∧
    ∃ error, Reader.text.run [0, 0, 0, 3, 110, 195] = .error error := by
  have read : EventSet.ofBytes [2, 0, 0, 0, 1, 99, 0, 0, 0, 5] =
      .ok ⟨.all, [⟨99, 5, .vmDeath⟩]⟩ := rfl
  have text : Reader.text [0, 0, 0, 3, 110, 195, 169, 1] = (.ok "né", [1]) :=
    Reader.reads_text (show (encodeText "né").length < UInt32.size by decide) [1]
  obtain ⟨-, -, -, -, frugal, -, -, -, -, stays⟩ := truncation_is_detected
  obtain ⟨taken, whole, onward, breaks⟩ := frugal.takes text
  have taken : taken = [0, 0, 0, 3, 110, 195, 169] :=
    List.append_cancel_right whole.symm
  exact ⟨⟨read, stays _ _ read [90, 0]⟩, text, onward [2],
    breaks [0, 0, 0, 3, 110, 195] [169] taken (List.cons_ne_nil _ _)⟩

end FrameEval.Wire
