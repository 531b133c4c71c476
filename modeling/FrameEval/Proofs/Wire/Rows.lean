import FrameEval.Proofs.ValueCodec
import FrameEval.Proofs.Wire.Members

/-!
# Rows of items on the wire

A reader takes items one after another; `Row` says which ones, without a count.  A list after its
count is the row of just so many items, and a count below zero stands for none.

A reader is `Strict` if it depends on nothing but the bytes that it takes and if all that it
complains about is the form of these bytes.  All readers are, so a list that breaks off is
refused as malformed and never cut short.
-/

namespace FrameEval.Wire.Reader

variable {α β : Type}

/-! ## Strict readers -/

/-- A reader that looks at nothing but what it takes, and fails for no reason but its form. -/
structure Strict (reader : Reader α) : Prop extends reader.Local where
  complains : ∀ {bytes error rest}, reader bytes = (.error error, rest) →
    ∃ detail, error = .protocol detail

theorem bind_eq_error_iff
    {first : Reader α} {second : α → Reader β} {bytes rest : Bytes} {error : ClientError} :
    (first >>= second) bytes = (.error error, rest) ↔
      first bytes = (.error error, rest) ∨
        ∃ value between, first bytes = (.ok value, between) ∧
          second value between = (.error error, rest) := by
  show Reader.bind first second bytes = _ ↔ _
  unfold Reader.bind
  rcases first bytes with ⟨_ | value, between⟩ <;> simp

theorem strict_pure (value : α) : (Pure.pure value : Reader α).Strict where
  toLocal := local_pure value
  complains := by
    rintro bytes error rest ⟨⟩

theorem strict_fail (detail : String) : (fail detail : Reader α).Strict where
  toLocal := local_fail detail
  complains := by
    rintro bytes error rest ⟨⟩
    exact ⟨detail, rfl⟩

theorem Strict.bind
    {first : Reader α} {second : α → Reader β} (strict : first.Strict)
    (strict' : ∀ value, (second value).Strict) :
    (first >>= second).Strict where
  toLocal := strict.toLocal.bind fun value => (strict' value).toLocal
  complains := by
    intro bytes error rest failed
    rcases bind_eq_error_iff.1 failed with failed | ⟨value, between, -, failed⟩
    · exact strict.complains failed
    · exact (strict' value).complains failed

theorem Strict.map
    {reader : Reader α} (strict : reader.Strict) (pack : α → β) :
    (do return pack (← reader)).Strict :=
  strict.bind fun value => strict_pure (pack value)

/-- A strict reader returns a value or says that the bytes are malformed. -/
theorem Strict.run_cases
    {reader : Reader α} (strict : reader.Strict) (bytes : Bytes) :
    (∃ value, reader.run bytes = .ok value) ∨
      ∃ detail, reader.run bytes = .error (.protocol detail) := by
  cases outcome : reader bytes with
  | mk result rest =>
      cases result with
      | ok value => exact .inl ⟨value, congrArg Prod.fst outcome⟩
      | error error =>
          rcases strict.complains outcome with ⟨detail, rfl⟩
          exact .inr ⟨detail, congrArg Prod.fst outcome⟩

/-! ## Words, texts and values -/

/-- What an access complains about is the form of the bytes. -/
theorem strict_ofAccess
    {access : Access α} {secure : access.Secure} (near : (ofAccess access secure).Local) :
    (ofAccess access secure).Strict where
  toLocal := near
  complains := by
    intro bytes error rest failed
    rcases Option.isSome_iff_exists.1 (secure bytes) with ⟨⟨detail | value, left⟩, steps⟩
    · rw [ofAccess_apply steps] at failed
      cases failed
      exact ⟨detail, rfl⟩
    · rw [ofAccess_apply steps] at failed
      cases failed

theorem strict_word (width : Nat) (what : String) :
    (word width what width (Nat.le_refl width)).Strict :=
  strict_ofAccess (codec_word width what).toLocal

theorem strict_uint8 : uint8.Strict :=
  (strict_word 1 _).map UInt8.ofNat

theorem strict_uint32 : uint32.Strict :=
  (strict_word 4 _).map UInt32.ofNat

theorem strict_int32 : int32.Strict :=
  (strict_word 4 _).map fun number => (UInt32.ofNat number).toInt32

theorem strict_uint64 : uint64.Strict :=
  (strict_word 8 _).map UInt64.ofNat

theorem strict_textBytes (length : Nat) : (textBytes length).Strict :=
  strict_ofAccess (codec_textBytes length).toLocal

theorem strict_text : text.Strict := by
  refine (strict_word 4 _).bind fun length => (strict_textBytes length).bind fun bytes => ?_
  cases decodeText bytes with
  | ok text => exact strict_pure text
  | error flaw => exact strict_fail _

theorem strict_location : location.Strict :=
  strict_uint8.bind fun _ => strict_uint64.bind fun _ => strict_uint64.bind fun _ =>
    strict_uint64.map _

theorem strict_data (tag : Tag) : (data tag).Strict := by
  cases tag with
  | primitive kind =>
      rcases data_primitive kind with ⟨what, same⟩
      rw [same]
      exact (strict_word kind.width what).map _
  | object kind => exact strict_uint64.map Data.object
  | void => exact strict_pure Data.void

theorem strict_value (byte : UInt8) : (value byte).Strict := by
  unfold value
  cases Tag.ofByte? byte with
  | some tag => exact (strict_data tag).map (Value.mk byte)
  | none => exact strict_fail _

theorem strict_tagged : tagged.Strict :=
  strict_uint8.bind strict_value

/-! ## Rows -/

/-- The items that a reader takes one after another, and what they leave. -/
inductive Row (item : Reader α) : Bytes → List α → Bytes → Prop where
  | nil (bytes : Bytes) : Row item bytes [] bytes
  | cons
      {bytes between rest : Bytes} {first : α} {later : List α}
      (reads : item bytes = (.ok first, between)) (row : Row item between later rest) :
      Row item bytes (first :: later) rest

variable {item : Reader α} {bytes rest : Bytes} {list : List α}

theorem times_eq_ok_iff
    {count : Nat} :
    times item count bytes = (.ok list, rest) ↔ list.length = count ∧ Row item bytes list rest := by
  induction count generalizing bytes list with
  | zero =>
      constructor
      · rintro ⟨⟩
        exact ⟨rfl, .nil _⟩
      · rintro ⟨none, row⟩
        obtain rfl := List.eq_nil_of_length_eq_zero none
        cases row
        rfl
  | succ count ih =>
      constructor
      · intro read
        rcases bind_eq_ok_iff.1 read with ⟨first, between, reads, read⟩
        rcases bind_eq_ok_iff.1 read with ⟨later, _, read, last⟩
        cases last
        rcases ih.1 read with ⟨length, row⟩
        exact ⟨congrArg Nat.succ length, .cons reads row⟩
      · rintro ⟨length, row⟩
        cases row with
        | nil => cases length
        | cons reads row =>
            have read := ih.2 ⟨Nat.succ.inj length, row⟩
            exact bind_eq_ok_iff.2 ⟨_, _, reads, bind_eq_ok_iff.2 ⟨_, _, read, rfl⟩⟩

/-- A list is the row of as many items as the number before it says. -/
theorem counted_eq_ok_iff :
    counted item bytes = (.ok list, rest) ↔
      ∃ (count : Int32) (items : Bytes), bytes = Writer.int32 count ++ items ∧
        list.length = count.toInt.toNat ∧ Row item items list rest := by
  constructor
  · intro read
    rcases bind_eq_ok_iff.1 read with ⟨count, items, number, read⟩
    rcases times_eq_ok_iff.1 read with ⟨length, row⟩
    exact ⟨count, items, (codec_int32.writes number).2, length, row⟩
  · rintro ⟨count, items, rfl, length, row⟩
    have number := codec_int32.reads count trivial items
    exact bind_eq_ok_iff.2 ⟨count, items, number, times_eq_ok_iff.2 ⟨length, row⟩⟩

theorem strict_times (strict : item.Strict) (count : Nat) : (times item count).Strict := by
  induction count with
  | zero => exact strict_pure []
  | succ count ih => exact strict.bind fun first => ih.map (first :: ·)

theorem strict_counted (strict : item.Strict) : (counted item).Strict :=
  strict_int32.bind fun count => strict_times strict count.toInt.toNat

end FrameEval.Wire.Reader
