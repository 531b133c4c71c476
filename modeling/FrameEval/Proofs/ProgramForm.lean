import FrameEval.Instruction.Json
import FrameEval.Proofs.Json.Reading

/-!
# Programs and their JSON form

A program is read back from the JSON value that stands for it, and from the text of that value.  A
floating-point literal is left out, since its JSON form is a decimal number that need not be the
same one; and slots, arities and jump targets are words.  Such a program is `Writable`.
-/

namespace FrameEval

/-! ## Numbers -/

namespace Json

/-- A signed word is written as the integer that it stands for. -/
theorem integer?_ofInt64 (value : Int64) : (ofInt64 value).integer? = some value.toInt := by
  rw [ofInt64]
  split
  · rfl
  · next natural =>
      have least := Int64.not_lt.1 natural
      have positive := Int64.le_iff_toInt_le.1 least
      rw [Int64.toInt_zero] at positive
      show some ((value.toUInt64.toNat : ℕ) : ℤ) = some value.toInt
      rw [Int64.toNat_toUInt64_of_le least, ← Int64.toNat_toInt, Int.toNat_of_nonneg positive]

theorem between?_ofInt64
    {word : Int64} {value least greatest : ℤ} (same : word.toInt = value) (above : least ≤ value)
    (below : value ≤ greatest) : (ofInt64 word).between? least greatest = some value := by
  rw [between?, integer?_ofInt64, same]
  exact if_pos ⟨above, below⟩

theorem below?_ofUInt64
    {word : UInt64} {value bound : ℕ} (same : word.toNat = value) (below : value < bound) :
    (ofUInt64 word).below? bound = some value := by
  subst same
  exact if_pos below

theorem ordinary_ofInt64 (depth : ℕ) (value : Int64) : Ordinary depth (ofInt64 value) := by
  rw [ofInt64]
  split
  · next negative => exact .negative negative
  · exact .natural _

/-- An object of one member. -/
theorem Ordinary.single
    {depth : ℕ} {value : Json} (ordinary : Ordinary depth value) (name : String) :
    Ordinary (depth + 1) (.object [(name, value)]) := by
  apply Ordinary.object (List.pairwise_singleton _ _)
  intro member listed
  rw [List.mem_singleton.1 listed]
  exact ordinary

/-- An object of two members. -/
theorem Ordinary.pair
    {depth : ℕ} {value other : Json} {name later : String} (sorted : name < later)
    (ordinary : Ordinary depth value) (ordinary' : Ordinary depth other) :
    Ordinary (depth + 1) (.object [(name, value), (later, other)]) := by
  apply Ordinary.object (by simpa using sorted)
  intro member listed
  simp only [List.mem_cons, List.not_mem_nil, or_false] at listed
  rcases listed with rfl | rfl
  · exact ordinary
  · exact ordinary'

end Json

open Json

/-! ## Literals -/

theorem PrimitiveKind.ofJson?_name (kind : PrimitiveKind) :
    ofJson? (.string kind.name) = some kind := by
  cases kind <;> rfl

namespace Primitive

/-- Whether a value is not a floating-point number. -/
def IsExact : Primitive → Prop
  | float _ => False
  | double _ => False
  | _ => True

theorem ofJson?_toJson {value : Primitive} (isExact : value.IsExact) :
    ofJson? value.toJson = some value := by
  cases value with
  | boolean value => rfl
  | byte value =>
      show (Json.between? _ _ (.ofInt64 value.toInt64)).bind (fun number => some _) = _
      rw [between?_ofInt64 value.toInt_toInt64 value.minValue_le_toInt value.toInt_le]
      exact congrArg (fun value => some (byte value)) (Int8.ofInt_toInt value)
  | char value =>
      show (Json.below? _ (.ofUInt64 value.toUInt64)).bind (fun number => some _) = _
      rw [below?_ofUInt64 value.toNat_toUInt64 value.toNat_lt]
      exact congrArg (fun value => some (char value)) UInt16.ofNat_toNat
  | short value =>
      show (Json.between? _ _ (.ofInt64 value.toInt64)).bind (fun number => some _) = _
      rw [between?_ofInt64 value.toInt_toInt64 value.minValue_le_toInt value.toInt_le]
      exact congrArg (fun value => some (short value)) (Int16.ofInt_toInt value)
  | int value =>
      show (Json.between? _ _ (.ofInt64 value.toInt64)).bind (fun number => some _) = _
      rw [between?_ofInt64 value.toInt_toInt64 value.minValue_le_toInt value.toInt_le]
      exact congrArg (fun value => some (int value)) (Int32.ofInt_toInt value)
  | long value =>
      show (Json.between? _ _ (.ofInt64 value)).bind (fun number => some _) = _
      rw [between?_ofInt64 rfl value.minValue_le_toInt value.toInt_le]
      exact congrArg (fun value => some (long value)) (Int64.ofInt_toInt value)
  | float value => exact isExact.elim
  | double value => exact isExact.elim

theorem ordinary_toJson {value : Primitive} (isExact : value.IsExact) (depth : ℕ) :
    Ordinary (depth + 1) value.toJson := by
  cases value with
  | boolean value => exact (Ordinary.bool value).single _
  | char value => exact (Ordinary.natural _).single _
  | byte value | short value | int value | long value => exact (ordinary_ofInt64 depth _).single _
  | float value => exact isExact.elim
  | double value => exact isExact.elim

end Primitive

namespace ObjectHandle

theorem ofJson?_toJson (handle : ObjectHandle) : ofJson? handle.toJson = some handle := by
  show (Json.below? UInt8.size (.ofNat handle.tag.toNat)).bind
    (fun tag => some (⟨handle.id, UInt8.ofNat tag⟩ : ObjectHandle)) = _
  have word : (UInt64.ofNat handle.tag.toNat).toNat = handle.tag.toNat :=
    UInt64.toNat_ofNat_of_lt' (Nat.lt_of_lt_of_le handle.tag.toNat_lt (by decide))
  rw [show Json.ofNat handle.tag.toNat = .ofUInt64 (UInt64.ofNat handle.tag.toNat) from rfl,
    below?_ofUInt64 word handle.tag.toNat_lt]
  exact congrArg (fun tag => some (⟨handle.id, tag⟩ : ObjectHandle)) UInt8.ofNat_toNat

theorem ordinary_toJson (handle : ObjectHandle) (depth : ℕ) :
    Ordinary (depth + 1) handle.toJson :=
  .pair (show "id" < "tag" by decide) (.natural handle.id) (.natural _)

end ObjectHandle

namespace ElementType

theorem ofJson?_toJson (element : ElementType) : ofJson? element.toJson = some element := by
  cases element with
  | primitive kind =>
      show (PrimitiveKind.ofJson? (.string kind.name)).bind (fun kind => some (primitive kind)) = _
      rw [PrimitiveKind.ofJson?_name]
      rfl
  | reference signature => rfl

theorem ordinary_toJson (element : ElementType) (depth : ℕ) :
    Ordinary (depth + 1) element.toJson := by
  cases element with
  | primitive kind => exact (Ordinary.string kind.name).single _
  | reference signature => exact (Ordinary.string signature).single _

end ElementType

namespace ArrayHandle

theorem ofJson?_toJson (array : ArrayHandle) : ofJson? array.toJson = some array := by
  show (ElementType.ofJson? array.element.toJson).bind
    (fun element => some (⟨array.id, element⟩ : ArrayHandle)) = _
  rw [ElementType.ofJson?_toJson]
  rfl

theorem ordinary_toJson (array : ArrayHandle) (depth : ℕ) :
    Ordinary (depth + 2) array.toJson :=
  .pair (show "element" < "id" by decide) (array.element.ordinary_toJson depth) (.natural array.id)

end ArrayHandle

namespace RemoteValue

/-- Whether a value is not a floating-point number. -/
def IsExact : RemoteValue → Prop
  | primitive value => value.IsExact
  | _ => True

theorem ofJson?_toJson {value : RemoteValue} (isExact : value.IsExact) :
    ofJson? value.toJson = some value := by
  cases value with
  | primitive value =>
      show (Primitive.ofJson? value.toJson).bind (fun value => some (primitive value)) = _
      rw [Primitive.ofJson?_toJson isExact]
      rfl
  | object handle =>
      show (ObjectHandle.ofJson? handle.toJson).bind (fun handle => some (object handle)) = _
      rw [ObjectHandle.ofJson?_toJson]
      rfl
  | array handle =>
      show (ArrayHandle.ofJson? handle.toJson).bind (fun handle => some (array handle)) = _
      rw [ArrayHandle.ofJson?_toJson]
      rfl
  | null => rfl
  | void => rfl

theorem ordinary_toJson {value : RemoteValue} (isExact : value.IsExact) (depth : ℕ) :
    Ordinary (depth + 3) value.toJson := by
  cases value with
  | primitive value => exact (Primitive.ordinary_toJson isExact (depth + 1)).single _
  | object handle => exact (handle.ordinary_toJson (depth + 1)).single _
  | array handle => exact (handle.ordinary_toJson depth).single _
  | null | void => exact .string _

end RemoteValue

/-! ## Instructions -/

namespace MethodSelector

theorem ofJson?_toJson {selector : MethodSelector} (word : selector.arity < UInt64.size) :
    ofJson? selector.toJson = some selector := by
  rcases selector with ⟨name, signature, arity⟩
  have fits : (UInt64.ofNat arity).toNat = arity := UInt64.toNat_ofNat_of_lt' word
  cases signature with
  | none =>
      show some (⟨name, none, (UInt64.ofNat arity).toNat⟩ : MethodSelector) = _
      rw [fits]
  | some signature =>
      show some (⟨name, some signature, (UInt64.ofNat arity).toNat⟩ : MethodSelector) = _
      rw [fits]

theorem ordinary_toJson (selector : MethodSelector) (depth : ℕ) :
    Ordinary (depth + 1) selector.toJson := by
  rw [toJson]
  apply Ordinary.object
  · have sorted : ["arity", "name", "signature"].Pairwise (· < ·) := by decide
    exact List.pairwise_map.1 sorted
  · intro member listed
    simp only [List.mem_cons, List.not_mem_nil, or_false] at listed
    rcases listed with rfl | rfl | rfl
    · exact .natural _
    · exact .string _
    · cases selector.signature with
      | none => exact .null
      | some signature => exact .string signature

end MethodSelector

theorem BinaryOp.ofJson?_name (op : BinaryOp) : ofJson? (.string op.name) = some op :=
  BinaryOp.ofName?_name op

theorem UnaryOp.ofJson?_name (op : UnaryOp) : ofJson? (.string op.name) = some op :=
  UnaryOp.ofName?_name op

namespace Instruction

/-- Whether literals are no floating-point numbers, and slots, arities and targets are words. -/
def Writable : Instruction → Prop
  | pushLiteral value => value.IsExact
  | loadTemporary slot => slot < UInt64.size
  | storeTemporary slot => slot < UInt64.size
  | invoke method => method.arity < UInt64.size
  | invokeStatic _ method => method.arity < UInt64.size
  | new _ constructor => constructor.arity < UInt64.size
  | jump target => target < UInt64.size
  | jumpIfTrue target => target < UInt64.size
  | jumpIfFalse target => target < UInt64.size
  | _ => True

/-- An instruction is read back from its JSON form. -/
theorem ofJson?_toJson {instruction : Instruction} (writable : instruction.Writable) :
    ofJson? instruction.toJson = some instruction := by
  have word : ∀ (form : ℕ → Instruction) {number : ℕ}, number < UInt64.size →
      some (form (UInt64.ofNat number).toNat) = some (form number) := by
    intro form number small
    rw [UInt64.toNat_ofNat_of_lt' small]
  cases instruction with
  | pushLiteral value =>
      show ((RemoteValue.ofJson? value.toJson).map pushLiteral <|> _) = _
      rw [RemoteValue.ofJson?_toJson writable]
      rfl
  | invoke method =>
      show ((MethodSelector.ofJson? method.toJson).map invoke <|> _) = _
      rw [MethodSelector.ofJson?_toJson writable]
      rfl
  | invokeStatic className method =>
      show (MethodSelector.ofJson? method.toJson).bind
        (fun method => some (invokeStatic className method)) = _
      rw [MethodSelector.ofJson?_toJson writable]
      rfl
  | new className constructor =>
      show (MethodSelector.ofJson? constructor.toJson).bind
        (fun constructor => some (new className constructor)) = _
      rw [MethodSelector.ofJson?_toJson writable]
      rfl
  | binary op =>
      show ((BinaryOp.ofJson? (.string op.name)).map binary <|> _) = _
      rw [BinaryOp.ofJson?_name]
      rfl
  | unary op =>
      show ((UnaryOp.ofJson? (.string op.name)).map unary <|> _) = _
      rw [UnaryOp.ofJson?_name]
      rfl
  | loadTemporary slot => exact word loadTemporary writable
  | storeTemporary slot => exact word storeTemporary writable
  | jump target => exact word jump writable
  | jumpIfTrue target => exact word jumpIfTrue writable
  | jumpIfFalse target => exact word jumpIfFalse writable
  | _ => rfl

theorem ordinary_toJson {instruction : Instruction} (writable : instruction.Writable) (depth : ℕ) :
    Ordinary (depth + 4) instruction.toJson := by
  cases instruction with
  | pushThis | pop | dup | arrayLoad | arrayStore | arrayLength => exact .string _
  | pushLiteral value => exact (RemoteValue.ordinary_toJson writable depth).single _
  | pushString text | pushLocal text | storeLocal text | declareLocal text | newArray text
  | fieldGet text | fieldSet text | cast text | instanceOf text =>
      exact (Ordinary.string text).single _
  | loadTemporary number | storeTemporary number | jump number | jumpIfTrue number
  | jumpIfFalse number => exact (Ordinary.natural _).single _
  | staticFieldGet className name | staticFieldSet className name =>
      exact (Ordinary.pair (show "class" < "name" by decide) (.string className)
        (.string name)).single _
  | invoke method => exact (method.ordinary_toJson (depth + 2)).single _
  | invokeStatic className method =>
      exact (Ordinary.pair (show "class" < "method" by decide) (.string className)
        (method.ordinary_toJson (depth + 1))).single _
  | new className constructor =>
      exact (Ordinary.pair (show "class" < "constructor" by decide) (.string className)
        (constructor.ordinary_toJson (depth + 1))).single _
  | binary op => exact (Ordinary.string op.name).single _
  | unary op => exact (Ordinary.string op.name).single _

end Instruction

/-! ## Programs -/

namespace Program

/-- Whether every instruction of a program is writable. -/
def Writable (program : Program) : Prop :=
  ∀ instruction ∈ program, instruction.Writable

theorem ofJson?_toJson {program : Program} (writable : program.Writable) :
    ofJson? program.toJson = some program := by
  show (program.map Instruction.toJson).mapM Instruction.ofJson? = some program
  induction program with
  | nil => rfl
  | cons instruction program ih =>
      have first := Instruction.ofJson?_toJson (writable instruction List.mem_cons_self)
      have rest := ih fun other member => writable other (List.mem_cons_of_mem instruction member)
      rw [List.map_cons, List.mapM_cons, first, rest]
      rfl

theorem ordinary_toJson {program : Program} (writable : program.Writable) (depth : ℕ) :
    Ordinary (depth + 5) program.toJson := by
  apply Ordinary.array
  intro json member
  rcases List.mem_map.1 member with ⟨instruction, listed, rfl⟩
  exact Instruction.ordinary_toJson (writable instruction listed) depth

/-- A program is read back from its JSON form, and from the text of that form. -/
theorem program_is_read_back {program : Program} (writable : program.Writable) :
    ofJson? program.toJson = some program ∧
      (Json.parse? program.toJson.print).bind ofJson? = some program := by
  have read := ofJson?_toJson writable
  refine ⟨read, ?_⟩
  rw [Json.parse?_print (ordinary_toJson writable 122)]
  exact read

/-- Literals of several kinds, with the greatest id and the least long, a selector without a
signature, and the greatest target. -/
def corners : Program := [
  .pushLiteral (.object ⟨18446744073709551615, 255⟩),
  .pushLiteral (.array ⟨1, .reference "[I"⟩),
  .pushLiteral (.array ⟨2, .primitive .char⟩),
  .pushLiteral (.primitive (.long Int64.minValue)),
  .pushLiteral .null,
  .pushString "a \"quoted\" name",
  .invokeStatic "LMath;" ⟨"max", none, 2⟩,
  .invoke ⟨"get", some "(I)I", 1⟩,
  .binary .ushr,
  .arrayStore,
  .jump 18446744073709551615]

theorem corners_are_read_back :
    corners.Writable ∧ ofJson? corners.toJson = some corners ∧
      (Json.parse? corners.toJson.print).bind ofJson? = some corners := by
  have writable : corners.Writable := by
    simp [Writable, corners, Instruction.Writable, RemoteValue.IsExact, Primitive.IsExact,
      UInt64.size]
  exact ⟨writable, program_is_read_back writable⟩

end Program

end FrameEval
