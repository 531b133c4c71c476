import FrameEval.RemoteValue.Basic

/-!
# Remote values on the wire

A remote value is sent under its own tag.  A value that arrives is classified by its data;
only an array leaves something open, its element type.
-/

namespace FrameEval.RemoteValue

open Wire

/-- The wire value of a remote value. -/
def toWire : RemoteValue → Wire.Value
  | primitive value => .ofPrimitive value
  | object handle => ⟨handle.tag, .object handle.id⟩
  | array handle => .ofObject .array handle.id
  | null => .null
  | void => .void

/-- What a wire value says without a question to the target. -/
inductive Classified where
  | known (value : RemoteValue)
  /-- An array whose element type is not known yet. -/
  | arrayOf (id : ObjectId)
  deriving DecidableEq

/-- Classify a wire value.  The object id zero is null whatever its tag. -/
def classify (value : Wire.Value) : Except EvalError Classified :=
  match value.data with
  | .void => .ok (.known void)
  | .object id =>
      if id = 0 then .ok (.known null)
      else if value.tag = ObjectKind.array.tag then .ok (.arrayOf id)
      else .ok (.known (object ⟨id, value.tag⟩))
  | data =>
      match data.toPrimitive? with
      | some value => .ok (.known (primitive value))
      | none => .error (.protocol s!"unexpected value tag {value.tag.toNat}")

@[simp]
theorem classify_ofPrimitive (tag : UInt8) (value : Primitive) :
    classify ⟨tag, .ofPrimitive value⟩ = .ok (.known (primitive value)) := by
  cases value <;> rfl

theorem classify_object (tag : UInt8) (id : ObjectId) :
    classify ⟨tag, .object id⟩ = .ok (
      if id = 0 then .known null
      else if tag = ObjectKind.array.tag then .arrayOf id
      else .known (object ⟨id, tag⟩)) := by
  show (if id = 0 then _ else _) = _
  rw [apply_ite Except.ok, apply_ite Except.ok]

/-- Every wire value is classified: data that are no object id and not void hold a primitive. -/
theorem exists_classify (value : Wire.Value) : ∃ classified, classify value = .ok classified := by
  rcases value with ⟨tag, data⟩
  rcases data.exists_shape with ⟨primitive, rfl⟩ | ⟨id, rfl⟩ | rfl
  · exact ⟨_, classify_ofPrimitive tag primitive⟩
  · exact ⟨_, classify_object tag id⟩
  · exact ⟨_, rfl⟩

end FrameEval.RemoteValue
