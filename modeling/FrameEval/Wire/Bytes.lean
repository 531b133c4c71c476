/-!
# Bytes on the wire

Words are written most significant byte first.  One codec serves every width: a word of
`width` bytes is a number below `256 ^ width` in base 256.
-/

namespace FrameEval.Wire

/-- A string of bytes. -/
abbrev Bytes := List UInt8

/-- The last `width` base-256 digits of a number, most significant first. -/
def bigEndian : Nat → Nat → Bytes
  | 0, _ => []
  | width + 1, value => bigEndian width (value / 256) ++ [UInt8.ofNat (value % 256)]

/-- The number that bytes stand for in base 256. -/
def ofBigEndian (bytes : Bytes) : Nat :=
  bytes.foldl (fun value byte => value * 256 + byte.toNat) 0

@[simp]
theorem length_bigEndian (width value : Nat) : (bigEndian width value).length = width := by
  induction width generalizing value with
  | zero => rfl
  | succ width ih => simp [bigEndian, ih]

@[simp]
theorem ofBigEndian_append (bytes : Bytes) (last : UInt8) :
    ofBigEndian (bytes ++ [last]) = ofBigEndian bytes * 256 + last.toNat := by
  simp [ofBigEndian]

theorem ofBigEndian_bigEndian (width value : Nat) :
    ofBigEndian (bigEndian width value) = value % Nat.pow 256 width := by
  induction width generalizing value with
  | zero => exact (Nat.mod_one value).symm
  | succ width ih =>
    rw [bigEndian, ofBigEndian_append, ih]
    have small : value % 256 < UInt8.size := Nat.mod_lt _ (by decide)
    have weight : Nat.pow 256 (width + 1) = 256 * Nat.pow 256 width := Nat.mul_comm _ _
    rw [UInt8.toNat_ofNat_of_lt' small, weight, Nat.mod_mul, Nat.mul_comm]
    exact Nat.add_comm _ _

end FrameEval.Wire
