import FrameEval.Proofs.Remote.Questions
import FrameEval.Proofs.ValueCodec
import FrameEval.Proofs.Wire.Members

/-!
# Remote values sent out and received

A value on the wire carries less than a remote value: an array comes without its element type, and
the object id zero is null under every tag.  The values that are told apart nevertheless are the
`Regular` ones.  They are what a target can send, and each of them comes back as itself, an array
after two questions about its type and every other value without any.
-/

namespace FrameEval

open Wire

theorem PrimitiveKind.signature_of_ofSignature?
    {signature : String} {kind : PrimitiveKind} (known : ofSignature? signature = some kind) :
    kind.signature = signature := by
  unfold ofSignature? at known
  split at known
  · next letter single =>
      split at known
      · next ascii =>
          have byte := congrArg UInt8.toNat (tag_of_ofTag? known)
          rw [UInt8.toNat_ofNat_of_lt' (Nat.lt_trans ascii (by decide))] at byte
          apply String.toList_injective
          rw [single, PrimitiveKind.signature, String.toList_singleton, PrimitiveKind.letter,
            ← byte, Char.ofNat_toNat]
      · cases known
  · cases known

namespace ElementType

theorem signature_ofSignature (signature : String) :
    (ofSignature signature).signature = signature := by
  rw [ofSignature]
  split
  · next kind known => exact PrimitiveKind.signature_of_ofSignature? known
  · rfl

theorem canonical_ofSignature (signature : String) : (ofSignature signature).Canonical :=
  congrArg ofSignature (signature_ofSignature signature)

end ElementType

namespace ArrayHandle

theorem toList_signature (array : ArrayHandle) :
    array.signature.toList = '[' :: array.element.signature.toList := by
  rw [signature, String.toList_append]
  rfl

theorem isArray_signature (array : ArrayHandle) : Signature.isArray array.signature = true := by
  rw [Signature.isArray, toList_signature]
  rfl

/-- The array of an id and a signature has these two, and the element type is canonical. -/
theorem ofSignature_eq_ok_iff {id : ObjectId} {signature : String} {array : ArrayHandle} :
    ofSignature id signature = .ok array ↔
      array.id = id ∧ array.signature = signature ∧ array.element.Canonical := by
  constructor
  · intro made
    unfold ofSignature at made
    split at made
    · next component shape =>
        cases made
        refine ⟨rfl, String.toList_injective ?_, ElementType.canonical_ofSignature _⟩
        rw [toList_signature, ElementType.signature_ofSignature, String.toList_ofList, shape]
    · cases made
  · rintro ⟨rfl, rfl, canonical⟩
    have made : ofSignature array.id array.signature =
        .ok ⟨array.id, .ofSignature (String.ofList array.element.signature.toList)⟩ := by
      simp only [ofSignature, toList_signature]
    rw [made, String.ofList_toList, canonical]

/-- An array is made of just those signatures that begin as the signature of an array does. -/
theorem exists_ofSignature_iff {id : ObjectId} {signature : String} :
    (∃ array, ofSignature id signature = .ok array) ↔ Signature.isArray signature = true := by
  constructor
  · rintro ⟨array, made⟩
    rw [← (ofSignature_eq_ok_iff.1 made).2.1]
    exact isArray_signature array
  · intro isArray
    rw [Signature.isArray, decide_eq_true_iff] at isArray
    rcases List.head?_eq_some_iff.1 isArray with ⟨component, shape⟩
    exact ⟨⟨id, .ofSignature (String.ofList component)⟩, by simp only [ofSignature, shape]⟩

end ArrayHandle

/-! ## Classification -/

namespace RemoteValue

/-- A value in a form in which a target can send it. -/
inductive Regular : RemoteValue → Prop where
  | primitive (value : Primitive) : Regular (primitive value)
  | object
      {handle : ObjectHandle} (live : handle.id ≠ 0) (plain : handle.tag ≠ ObjectKind.array.tag) :
      Regular (object handle)
  | array
      {handle : ArrayHandle} (live : handle.id ≠ 0) (canonical : handle.element.Canonical) :
      Regular (array handle)
  | null : Regular null
  | void : Regular void

theorem classify_eq_arrayOf_iff {value : Wire.Value} {id : ObjectId} :
    classify value = .ok (.arrayOf id) ↔ id ≠ 0 ∧ value = .ofObject .array id := by
  constructor
  · rcases value with ⟨tag, data⟩
    intro classified
    rcases data.exists_shape with ⟨primitive, rfl⟩ | ⟨object, rfl⟩ | rfl
    · rw [classify_ofPrimitive] at classified
      cases classified
    · rw [classify_object] at classified
      split at classified
      · cases classified
      next live =>
      split at classified
      · next isArray =>
          cases classified
          exact ⟨live, congrArg (Wire.Value.mk · _) isArray⟩
      · cases classified
    · cases classified
  · rintro ⟨live, rfl⟩
    rw [Wire.Value.ofObject, classify_object, if_neg live, if_pos rfl]

/-- What is known at once is regular. -/
theorem regular_of_classify
    {value : Wire.Value} {known : RemoteValue} (classified : classify value = .ok (.known known)) :
    known.Regular := by
  rcases value with ⟨tag, data⟩
  rcases data.exists_shape with ⟨primitive, rfl⟩ | ⟨id, rfl⟩ | rfl
  · rw [classify_ofPrimitive] at classified
    cases classified
    exact .primitive _
  · rw [classify_object] at classified
    split at classified
    · cases classified
      exact .null
    next live =>
    split at classified
    · cases classified
    · next plain =>
        cases classified
        exact .object live plain
  · cases classified
    exact .void

/-- Unless it is an array, a regular value is known at once. -/
theorem Regular.classify_toWire
    {value : RemoteValue} (regular : value.Regular) :
    classify value.toWire = .ok (.known value) ∨
      ∃ handle, value = .array handle ∧ classify value.toWire = .ok (.arrayOf handle.id) := by
  cases regular with
  | primitive primitive => exact .inl (classify_ofPrimitive _ primitive)
  | null | void => exact .inl rfl
  | object live plain =>
      left
      rw [toWire, classify_object, if_neg live, if_neg plain]
  | @array handle live canonical =>
      exact .inr ⟨handle, rfl, classify_eq_arrayOf_iff.2 ⟨live, rfl⟩⟩

end RemoteValue

/-! ## Over a link -/

namespace Remote

open Dialogue RemoteValue

section

variable {State : Type} {link : Surroundings State}

/-- From a state on, a target says that an object is of a type of that signature. -/
def Surroundings.Reports
    (link : Surroundings State) (state : State) (id : ObjectId) (signature : String) : Prop :=
  ∃ tag type, link.told (Call.objectType id) state = .ok (tag, type) ∧
    link.told (Call.typeSignature type) (link.send (Call.objectType id).order state).2 =
      .ok signature

theorem classified_of_known
    {wire : Wire.Value} {value : RemoteValue} (classifies : classify wire = .ok (.known value)) :
    Errand.classified wire = pure value := by
  rw [Errand.classified, classifies]
  rfl

theorem classified_of_array
    {wire : Wire.Value} {id : ObjectId} (classifies : classify wire = .ok (.arrayOf id)) :
    Errand.classified wire = (do
      let (_, type) ← Errand.call (Call.objectType id)
      let signature ← Errand.call (Call.typeSignature type)
      let array ← Errand.ofExcept (ArrayHandle.ofSignature id signature)
      return .array array) := by
  rw [Errand.classified, classifies]
  rfl

/-- An array is made of its id and the signature that is reported. -/
theorem carryOut_classified_array
    {wire : Wire.Value} {id : ObjectId} {signature : String} {known : Knowledge State}
    (classifies : classify wire = .ok (.arrayOf id))
    (reports : link.Reports known.state id signature) :
    (link.carryOut (Errand.classified wire) known).1 =
      ((ArrayHandle.ofSignature id signature).map RemoteValue.array).mapError Halt.failed := by
  rcases reports with ⟨tag, type, typed, signed⟩
  rw [classified_of_array classifies, Surroundings.carryOut_bind, Surroundings.carryOut_call, typed]
  dsimp only [Except.mapError]
  rw [Surroundings.carryOut_bind, Surroundings.carryOut_call, signed]
  dsimp only [Except.mapError]
  rw [Surroundings.carryOut_bind]
  cases ArrayHandle.ofSignature id signature <;> rfl

/-- If an array is made at all, its signature was reported. -/
theorem reports_of_classified_array
    {wire : Wire.Value} {id : ObjectId} {known : Knowledge State} {value : RemoteValue}
    (classifies : classify wire = .ok (.arrayOf id))
    (made : (link.carryOut (Errand.classified wire) known).1 = .ok value) :
    ∃ signature, link.Reports known.state id signature := by
  rw [classified_of_array classifies, Surroundings.carryOut_bind,
    Surroundings.carryOut_call] at made
  cases typed : link.told (Call.objectType id) known.state with
  | error error =>
      rw [typed] at made
      cases made
  | ok entry =>
      rw [typed] at made
      dsimp only [Except.mapError] at made
      rw [Surroundings.carryOut_bind, Surroundings.carryOut_call] at made
      cases signed : link.told (Call.typeSignature entry.2)
          (link.send (Call.objectType id).order known.state).2 with
      | error error =>
          rw [signed] at made
          cases made
      | ok signature => exact ⟨signature, entry.1, entry.2, typed, signed⟩

/-! ### What it costs -/

theorem asked_classified_known
    {wire : Wire.Value} {value : RemoteValue} (classifies : classify wire = .ok (.known value))
    (known : Knowledge State) : link.asked (Errand.classified wire) known = [] := by
  rw [classified_of_known classifies]
  rfl

/-- The type of an array is asked for, and then perhaps the signature of that type. -/
theorem asked_classified_array
    {wire : Wire.Value} {id : ObjectId} (classifies : classify wire = .ok (.arrayOf id))
    (known : Knowledge State) :
    ∃ more, link.asked (Errand.classified wire) known =
        .send (Call.objectType id).order :: more ∧
      (more = [] ∨ ∃ type, more = [.send (Call.typeSignature type).order]) := by
  rw [classified_of_array classifies, Surroundings.asked_bind, Surroundings.asked_call]
  rcases link.carryOut (Errand.call (Call.objectType id)) known with ⟨⟨halt⟩ | ⟨tag, type⟩, between⟩
  · exact ⟨[], rfl, .inl rfl⟩
  · refine ⟨[.send (Call.typeSignature type).order], ?_, .inr ⟨type, rfl⟩⟩
    dsimp only
    rw [Surroundings.asked_bind, Surroundings.asked_call]
    rcases link.carryOut (Errand.call (Call.typeSignature type)) between with
      ⟨⟨halt⟩ | signature, after⟩
    · rfl
    · dsimp only
      rw [Surroundings.asked_bind, Surroundings.asked_ofExcept]
      rcases link.carryOut (Errand.ofExcept (ArrayHandle.ofSignature id signature)) after with
        ⟨⟨halt⟩ | array, last⟩ <;> rfl

/-! ### There and back -/

/-- Whatever arrives is regular. -/
theorem regular_of_classified
    {wire : Wire.Value} {known : Knowledge State} {value : RemoteValue}
    (made : (link.carryOut (Errand.classified wire) known).1 = .ok value) : value.Regular := by
  obtain ⟨other | id, classifies⟩ := exists_classify wire
  · rw [classified_of_known classifies] at made
    cases made
    exact regular_of_classify classifies
  · rcases reports_of_classified_array classifies made with ⟨signature, reports⟩
    rw [carryOut_classified_array classifies reports] at made
    cases formed : ArrayHandle.ofSignature id signature with
    | error error =>
        rw [formed] at made
        cases made
    | ok array =>
        rw [formed] at made
        cases made
        rcases ArrayHandle.ofSignature_eq_ok_iff.1 formed with ⟨same, -, canonical⟩
        apply Regular.array _ canonical
        rw [same]
        exact (classify_eq_arrayOf_iff.1 classifies).1

/-- A regular value comes back as itself. -/
theorem carryOut_classified_toWire
    {value : RemoteValue} {known : Knowledge State} (regular : value.Regular)
    (reports : ∀ array, value = .array array →
      link.Reports known.state array.id array.signature) :
    (link.carryOut (Errand.classified value.toWire) known).1 = .ok value := by
  rcases regular.classify_toWire with classifies | ⟨array, rfl, classifies⟩
  · rw [classified_of_known classifies]
    rfl
  · rw [carryOut_classified_array classifies (reports array rfl)]
    cases regular with
    | array live canonical =>
        rw [ArrayHandle.ofSignature_eq_ok_iff.2 ⟨rfl, rfl, canonical⟩]
        rfl

/-- How values travel over a link. -/
structure ValueTrip (link : Surroundings State) : Prop where
  /-- If the target says of an array that its type has its signature, the values that come back as
  they were sent are the regular ones. -/
  returns : ∀ (value : RemoteValue) (known : Knowledge State),
    (∀ array, value = .array array → link.Reports known.state array.id array.signature) →
      ((link.carryOut (Errand.classified value.toWire) known).1 = .ok value ↔ value.Regular)
  /-- A primitive is held by the data that it is sent as, and by no others. -/
  primitive : ∀ (value : Primitive) (data : Wire.Data),
    data.toPrimitive? = some value ↔ data = (RemoteValue.primitive value).toWire.data
  /-- Nothing is asked but for an array; for that its type, and the signature of the type. -/
  asks : ∀ (wire : Wire.Value) (known : Knowledge State),
    (link.asked (Errand.classified wire) known ≠ [] ↔ ∃ id, id ≠ 0 ∧ wire = .ofObject .array id) ∧
      (link.asked (Errand.classified wire) known).length ≤ 2
  /-- The object id zero is null under every tag. -/
  null : ∀ (tag : UInt8) (known : Knowledge State),
    link.carryOut (Errand.classified ⟨tag, .object 0⟩) known = (.ok .null, known)
  /-- Nothing is learned about types. -/
  keeps : ∀ (wire : Wire.Value) (known : Knowledge State),
    (link.carryOut (Errand.classified wire) known).2.types = known.types
  /-- The signature of an array is the one that it was made of, and it is made of every signature
  that begins as the signature of an array does. -/
  signature : ∀ (id : ObjectId) (signature : String), Signature.isArray signature = true →
    ∃ array, ArrayHandle.ofSignature id signature = .ok array ∧ array.id = id ∧
      array.signature = signature
  /-- Every value is classified: it is known at once, as a regular value, or it is an array. -/
  total : ∀ wire : Wire.Value,
    (∃ value, RemoteValue.classify wire = .ok (.known value) ∧ value.Regular ∧
      ∀ known, link.carryOut (Errand.classified wire) known = (.ok value, known)) ∨
    ∃ id, id ≠ 0 ∧ wire = .ofObject .array id ∧ RemoteValue.classify wire = .ok (.arrayOf id)
  /-- It is only for an array that the target does not say to be one that nothing comes back. -/
  fails : ∀ (wire : Wire.Value) (known : Knowledge State) (halt : Halt),
    (link.carryOut (Errand.classified wire) known).1 = .error halt →
      ∃ id, id ≠ 0 ∧ wire = .ofObject .array id ∧
        ∀ signature, link.Reports known.state id signature → Signature.isArray signature = false

/-- Regular values survive being sent to the target and received from it, and no others do. -/
theorem regular_values_survive (link : Surroundings State) : ValueTrip link where
  returns := by
    intro value known reports
    exact ⟨regular_of_classified, fun regular => carryOut_classified_toWire regular reports⟩
  primitive value data := Data.toPrimitive?_eq_some_iff
  asks := by
    intro wire known
    obtain ⟨value | id, classifies⟩ := exists_classify wire
    · rw [asked_classified_known classifies]
      refine ⟨iff_of_false (· rfl) ?_, Nat.zero_le 2⟩
      rintro ⟨id, array⟩
      rw [classify_eq_arrayOf_iff.2 array] at classifies
      cases classifies
    · rcases asked_classified_array classifies known with ⟨more, asked, rest⟩
      rw [asked]
      refine ⟨iff_of_true (List.cons_ne_nil _ _) ⟨id, classify_eq_arrayOf_iff.1 classifies⟩, ?_⟩
      rcases rest with rfl | ⟨type, rfl⟩
      · exact Nat.le_succ 1
      · exact Nat.le_refl 2
  null tag known := by
    have classifies : classify ⟨tag, .object 0⟩ = .ok (.known .null) := rfl
    rw [classified_of_known classifies]
    rfl
  keeps := by
    intro wire known
    rcases blind_classified wire known.state with ⟨result, after, ends⟩
    have ended : link.carryOut (Errand.classified wire) known = _ := ends known.types
    rw [ended]
  signature := by
    intro id signature isArray
    rcases ArrayHandle.exists_ofSignature_iff.2 isArray with ⟨array, made⟩
    rcases ArrayHandle.ofSignature_eq_ok_iff.1 made with ⟨sameId, same, -⟩
    exact ⟨array, made, sameId, same⟩
  total := by
    intro wire
    obtain ⟨value | id, classifies⟩ := exists_classify wire
    · refine .inl ⟨value, classifies, regular_of_classify classifies, fun known => ?_⟩
      rw [classified_of_known classifies]
      rfl
    · rcases classify_eq_arrayOf_iff.1 classifies with ⟨live, array⟩
      exact .inr ⟨id, live, array, classifies⟩
  fails := by
    intro wire known halt failed
    obtain ⟨value | id, classifies⟩ := exists_classify wire
    · rw [classified_of_known classifies] at failed
      cases failed
    · rcases classify_eq_arrayOf_iff.1 classifies with ⟨live, array⟩
      refine ⟨id, live, array, fun signature reports => ?_⟩
      by_contra isArray
      rw [Bool.not_eq_false] at isArray
      rcases ArrayHandle.exists_ofSignature_iff.2 isArray with ⟨made, formed⟩
      rw [carryOut_classified_array classifies reports, formed] at failed
      cases failed

end

/-! ### A target with one array -/

/-- A target whose objects are arrays of arrays of `int`. -/
def tableTarget : Surroundings Unit where
  send order state :=
    (if order.commandSet = CommandSet.object then .ok ⟨0, 0, Writer.uint8 3 ++ Writer.uint64 5⟩
      else .ok ⟨0, 0, Writer.text "[[I"⟩, state)
  enter _ state := state
  leave _ state := state

theorem tableTarget_reports (id : ObjectId) : tableTarget.Reports () id "[[I" := by
  refine ⟨3, 5, Call.conclude_of_reads (Reader.reads_typeReference 3 5) 0, ?_⟩
  exact Call.conclude_of_reads (Reader.reads_text (by decide)) 0

/-- An array of arrays comes back as itself, and so does a string under the tag of threads; under
the tag of arrays the string comes back as an array. -/
theorem table_survives :
    let array : ArrayHandle := ⟨9, .reference "[I"⟩
    tableTarget.Reports () array.id array.signature ∧
      (tableTarget.carryOut (Errand.classified (RemoteValue.array array).toWire) ⟨.empty, ()⟩).1 =
        .ok (.array array) ∧
      (tableTarget.carryOut (Errand.classified (RemoteValue.object ⟨9, 116⟩).toWire)
        ⟨.empty, ()⟩).1 = .ok (.object ⟨9, 116⟩) ∧
      (tableTarget.carryOut (Errand.classified (RemoteValue.object ⟨9, 91⟩).toWire)
        ⟨.empty, ()⟩).1 ≠ .ok (.object ⟨9, 91⟩) := by
  intro array
  have trip := regular_values_survive tableTarget
  have reports : tableTarget.Reports () array.id array.signature := tableTarget_reports 9
  refine ⟨reports, ?_, ?_, ?_⟩
  · apply (trip.returns (.array array) ⟨.empty, ()⟩ ?_).2
    · exact .array (by decide) (show ElementType.ofSignature _ = _ by decide)
    · rintro other ⟨⟩
      exact reports
  · apply (trip.returns (.object ⟨9, 116⟩) ⟨.empty, ()⟩ (by rintro other ⟨⟩)).2
    exact .object (by decide) (by decide)
  · intro same
    have regular := (trip.returns (.object ⟨9, 91⟩) ⟨.empty, ()⟩ (by rintro other ⟨⟩)).1 same
    cases regular with
    | object live plain => exact plain rfl

end Remote

end FrameEval
