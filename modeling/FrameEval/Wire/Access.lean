import FrameEval.Wire.Bytes

/-!
# Access to a buffer

The accessors of a buffer take bytes from its front and do not ask whether they are there: where
they are not, the buffer is overrun and the program breaks off.  So before bytes of somebody else
are accessed, as many are required as the accessors go on to take.  `Secure` says that these are
enough.
-/

namespace FrameEval.Wire

/-- Steps on a buffer.  They end with a result, or with the reason why it is refused, and with what
is left of the buffer; nothing comes of steps that overrun it. -/
def Access (α : Type) : Type := Bytes → Option (Except String α × Bytes)

namespace Access

variable {α β : Type}

def pure (value : α) : Access α := fun bytes => some (.ok value, bytes)

def bind (first : Access α) (second : α → Access β) : Access β := fun bytes =>
  match first bytes with
  | some (.ok value, rest) => second value rest
  | some (.error detail, rest) => some (.error detail, rest)
  | none => none

instance : Monad Access where
  pure := pure
  bind := bind

/-- Refuse a buffer with fewer bytes, in words that may say how many it has. -/
def require (count : Nat) (refusal : Nat → String) : Access Unit := fun bytes =>
  some (if bytes.length < count then .error (refusal bytes.length) else .ok (), bytes)

/-- The first bytes, which stay where they are. -/
def slice (count : Nat) : Access Bytes := fun bytes =>
  if count ≤ bytes.length then some (.ok (bytes.take count), bytes) else none

/-- Go past the first bytes. -/
def advance (count : Nat) : Access Unit := fun bytes =>
  if count ≤ bytes.length then some (.ok (), bytes.drop count) else none

/-- Take the number that the first bytes stand for. -/
def word (width : Nat) : Access Nat := do
  let digits ← slice width
  advance width
  return ofBigEndian digits

/-- Take a number once so many bytes were required for it. -/
def guardedWord (count : Nat) (what : String) (width : Nat) : Access Nat := do
  require count fun _ => s!"Not enough data for {what}"
  word width

/-- Take the bytes of a text once as many were required as it is said to have. -/
def guardedText (length : Nat) : Access Bytes := do
  require length fun left => s!"Not enough data for string: expected {length}, got {left}"
  let bytes ← slice length
  advance length
  return bytes

/-- No buffer is overrun. -/
def Secure (access : Access α) : Prop := ∀ bytes, (access bytes).isSome

/-! ## What the steps come to -/

section

variable {first : Access α} {second : α → Access β} {bytes rest : Bytes}

theorem bind_of_ok {value : α} (done : first bytes = some (.ok value, rest)) :
    (first >>= second) bytes = second value rest := by
  show bind first second bytes = _
  rw [bind, done]

theorem bind_of_error {detail : String} (refused : first bytes = some (.error detail, rest)) :
    (first >>= second) bytes = some (.error detail, rest) := by
  show bind first second bytes = _
  rw [bind, refused]

theorem bind_of_none (overrun : first bytes = none) : (first >>= second) bytes = none := by
  show bind first second bytes = _
  rw [bind, overrun]

theorem slice_of_le {count : Nat} (enough : count ≤ bytes.length) :
    slice count bytes = some (.ok (bytes.take count), bytes) :=
  if_pos enough

theorem advance_of_le {count : Nat} (enough : count ≤ bytes.length) :
    advance count bytes = some (.ok (), bytes.drop count) :=
  if_pos enough

theorem require_of_lt {count : Nat} (refusal : Nat → String) (short : bytes.length < count) :
    require count refusal bytes = some (.error (refusal bytes.length), bytes) := by
  rw [require, if_pos short]

theorem require_of_le {count : Nat} (refusal : Nat → String) (enough : count ≤ bytes.length) :
    require count refusal bytes = some (.ok (), bytes) := by
  rw [require, if_neg (Nat.not_lt_of_le enough)]

theorem word_of_le {width : Nat} (enough : width ≤ bytes.length) :
    word width bytes = some (.ok (ofBigEndian (bytes.take width)), bytes.drop width) :=
  (bind_of_ok (slice_of_le enough)).trans (bind_of_ok (advance_of_le enough))

/-- A number that is not there in full overruns the buffer. -/
theorem word_of_lt {width : Nat} (short : bytes.length < width) : word width bytes = none :=
  bind_of_none (if_neg (Nat.not_le_of_lt short))

end

section

variable {count width : Nat} {what : String} {bytes : Bytes}

theorem guardedWord_of_lt (short : bytes.length < count) :
    guardedWord count what width bytes = some (.error s!"Not enough data for {what}", bytes) :=
  bind_of_error (require_of_lt _ short)

theorem guardedWord_of_le (enough : count ≤ bytes.length) :
    guardedWord count what width bytes = word width bytes :=
  bind_of_ok (require_of_le _ enough)

/-- What is required for a number is enough if and only if the number is not wider. -/
theorem secure_guardedWord_iff : (guardedWord count what width).Secure ↔ width ≤ count := by
  constructor
  · intro secure
    have length : (List.replicate count (0 : UInt8)).length = count := List.length_replicate
    have taken := secure (List.replicate count 0)
    rw [guardedWord_of_le (Nat.le_of_eq length.symm)] at taken
    refine Nat.le_of_not_lt fun wide => ?_
    rw [word_of_lt (Nat.lt_of_le_of_lt (Nat.le_of_eq length) wide)] at taken
    cases taken
  · intro agree bytes
    rcases Nat.lt_or_ge bytes.length count with short | enough
    · rw [guardedWord_of_lt short]
      rfl
    · rw [guardedWord_of_le enough, word_of_le (Nat.le_trans agree enough)]
      rfl

end

section

variable {length : Nat} {bytes : Bytes}

theorem guardedText_of_lt (short : bytes.length < length) :
    guardedText length bytes =
      some (.error s!"Not enough data for string: expected {length}, got {bytes.length}", bytes) :=
  bind_of_error (require_of_lt _ short)

theorem guardedText_of_le (enough : length ≤ bytes.length) :
    guardedText length bytes = some (.ok (bytes.take length), bytes.drop length) :=
  (bind_of_ok (require_of_le _ enough)).trans
    ((bind_of_ok (slice_of_le enough)).trans (bind_of_ok (advance_of_le enough)))

theorem secure_guardedText (length : Nat) : (guardedText length).Secure := by
  intro bytes
  rcases Nat.lt_or_ge bytes.length length with short | enough
  · rw [guardedText_of_lt short]
    rfl
  · rw [guardedText_of_le enough]
    rfl

end

end Access

end FrameEval.Wire
