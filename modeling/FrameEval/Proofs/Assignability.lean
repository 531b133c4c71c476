import FrameEval.Proofs.Evaluation.Search

/-!
# Assignability of references

`Assignable` is the relation that the declarations of a program mean: arrays are compared by
their components, every array is also of the three types above all arrays, and a class may be
stored where a type above it is declared.  It is a least relation, so a type of one shape may be
derived in several ways; once the common dimensions of two types are stripped each of its rules
speaks of another shape, and these are the cases that the test distinguishes.
-/

namespace FrameEval

namespace Signature

/-- Whether a type is neither primitive nor an array. -/
def isClass (signature : String) : Bool :=
  !isPrimitive signature && !isArray signature

/-- Where one type is declared a value of the other may be stored. -/
inductive Assignable (hierarchy : Hierarchy) : String → String → Prop where
  | same {type : String} : Assignable hierarchy type type
  | component
      {source target : String} (components : Assignable hierarchy source target) :
      Assignable hierarchy ("[" ++ source) ("[" ++ target)
  /-- What every array is. -/
  | array
      {source target : String} (array : isArray source = true)
      (general : target = objectClass ∨ target ∈ arrayInterfaces) :
      Assignable hierarchy source target
  | object
      {source : String} (ofClass : isClass source = true) :
      Assignable hierarchy source objectClass
  | supertype
      {source target : String} (ofClass : isClass source = true)
      (toClass : isClass target = true) (above : hierarchy.Ascends source target) :
      Assignable hierarchy source target

/-- The type that is left of a source when the dimensions it shares with a target are stripped. -/
def strippedSource (source target : String) : String :=
  String.ofList (stripCommon source.toList target.toList).1

variable {hierarchy : Hierarchy}

theorem isArray_append (component : String) : isArray ("[" ++ component) = true := by
  simp [isArray]

theorem not_isPrimitive_of_isArray
    {signature : String} (array : isArray signature = true) :
    isPrimitive signature = false := by
  rw [isArray, decide_eq_true_iff, List.head?_eq_some_iff] at array
  obtain ⟨component, spelled⟩ := array
  rw [isPrimitive, PrimitiveKind.ofSignature?, spelled]
  cases component with
  | nil => rfl
  | cons letter rest => rfl

/-- None of the types above all arrays is an array. -/
theorem not_isArray_of_general
    {target : String} (general : target = objectClass ∨ target ∈ arrayInterfaces) :
    isArray target = false := by
  rw [arrayInterfaces, List.mem_pair] at general
  rcases general with rfl | rfl | rfl <;> decide

theorem not_isPrimitive_of_general
    {target : String} (general : target = objectClass ∨ target ∈ arrayInterfaces) :
    isPrimitive target = false := by
  rw [arrayInterfaces, List.mem_pair] at general
  rcases general with rfl | rfl | rfl <;> decide

theorem isClass_objectClass : isClass objectClass = true := by
  decide

/-! ## Common dimensions -/

theorem assignable_component_iff
    (source target : String) :
    Assignable hierarchy ("[" ++ source) ("[" ++ target) ↔
      Assignable hierarchy source target := by
  constructor
  · intro assignable
    generalize array : "[" ++ source = left at assignable
    generalize other : "[" ++ target = right at assignable
    cases assignable with
    | same =>
        obtain rfl : source = target := by simpa using array.trans other.symm
        exact .same
    | component components =>
        obtain rfl : source = _ := by simpa using array
        obtain rfl : target = _ := by simpa using other
        exact components
    | array _ general =>
        subst other
        cases (isArray_append target).symm.trans (not_isArray_of_general general)
    | object ofClass =>
        subst array
        simp [isClass, isArray_append] at ofClass
    | supertype ofClass _ _ =>
        subst array
        simp [isClass, isArray_append] at ofClass
  · exact .component

/-- Stripping common dimensions keeps assignability. -/
theorem assignable_stripCommon_iff
    (source target : List Char) :
    Assignable hierarchy (String.ofList (stripCommon source target).1)
        (String.ofList (stripCommon source target).2) ↔
      Assignable hierarchy (String.ofList source) (String.ofList target) := by
  fun_induction stripCommon source target with
  | case1 source target ih =>
      have array (component : List Char) :
          String.ofList ('[' :: component) = "[" ++ String.ofList component := by
        simp
      rw [ih, array, array, assignable_component_iff]
  | case2 source target _ => rfl

/-- Once stripped, at most one of two types is an array. -/
theorem not_isArray_stripCommon
    (source target : List Char) :
    ¬ (isArray (String.ofList (stripCommon source target).1) = true ∧
      isArray (String.ofList (stripCommon source target).2) = true) := by
  fun_induction stripCommon source target with
  | case1 source target ih => exact ih
  | case2 source target apart =>
      simp only [isArray, String.toList_ofList, decide_eq_true_iff, List.head?_eq_some_iff]
      rintro ⟨⟨source, rfl⟩, target, rfl⟩
      exact apart source target rfl rfl

/-- Of a primitive type, or to one, only the same type is assignable. -/
theorem assignable_primitive_iff
    {source target : String} (apart : ¬ (isArray source = true ∧ isArray target = true))
    (primitive : isPrimitive source = true ∨ isPrimitive target = true) :
    Assignable hierarchy source target ↔ source = target := by
  constructor
  · intro assignable
    cases assignable with
    | same => rfl
    | component => exact (apart ⟨isArray_append _, isArray_append _⟩).elim
    | array array general =>
        simp [not_isPrimitive_of_isArray array, not_isPrimitive_of_general general] at primitive
    | object ofClass =>
        have toClass := isClass_objectClass
        simp only [isClass, Bool.and_eq_true, Bool.not_eq_true'] at ofClass toClass
        simp [ofClass.1, toClass.1] at primitive
    | supertype ofClass toClass _ =>
        simp only [isClass, Bool.and_eq_true, Bool.not_eq_true'] at ofClass toClass
        simp [ofClass.1, toClass.1] at primitive
  · rintro rfl
    exact .same

/-- An array is assignable to another type if this is above all arrays. -/
theorem assignable_array_iff
    {source target : String} (array : isArray source = true) (apart : isArray target = false) :
    Assignable hierarchy source target ↔ target = objectClass ∨ target ∈ arrayInterfaces := by
  constructor
  · intro assignable
    cases assignable with
    | same => cases array.symm.trans apart
    | component => cases (isArray_append _).symm.trans apart
    | array _ general => exact general
    | object ofClass => simp [isClass, array] at ofClass
    | supertype ofClass _ _ => simp [isClass, array] at ofClass
  · exact .array array

/-- No other type is assignable to an array. -/
theorem not_assignable_to_array
    {source target : String} (apart : isArray source = false) (array : isArray target = true) :
    ¬ Assignable hierarchy source target := by
  intro assignable
  cases assignable with
  | same => cases array.symm.trans apart
  | component => cases (isArray_append _).symm.trans apart
  | array other _ => cases other.symm.trans apart
  | object _ => cases array.symm.trans (not_isArray_of_general (.inl rfl))
  | supertype _ toClass _ => simp [isClass, array] at toClass

/-- A class is assignable to the class above all types and to every type that it ascends to. -/
theorem assignable_class_iff
    {source target : String} (ofClass : isClass source = true) (toClass : isClass target = true) :
    Assignable hierarchy source target ↔
      target = objectClass ∨ hierarchy.Ascends source target := by
  constructor
  · intro assignable
    cases assignable with
    | same => exact .inr .refl
    | component => simp [isClass, isArray_append] at ofClass
    | array array _ => simp [isClass, array] at ofClass
    | object _ => exact .inl rfl
    | supertype _ _ above => exact .inr above
  · rintro (rfl | above)
    · exact .object ofClass
    · exact .supertype ofClass toClass above

end Signature

namespace Evaluation

open Dialogue Signature

variable {hierarchy : Hierarchy}

/-- The test of two stripped types; it puts questions only about two different classes. -/
theorem compare_triple
    {source target : String} (apart : ¬ (isArray source = true ∧ isArray target = true))
    {roster : Finset String}
    (complete : ∀ type, hierarchy.Ascends source type → type ∈ roster)
    {limit : Nat} (enough : effort hierarchy roster [source] [] ≤ limit) :
    Triple (searchRule hierarchy source) (fun record _ => record = [])
      (if source = target then return true
        else if isPrimitive source || isPrimitive target then return false
        else if isArray source then
          return target = objectClass || arrayInterfaces.contains target
        else if isArray target then return false
        else if target = objectClass then return true
        else reaches target limit [source] [])
      fun record answer _ => Tells record hierarchy →
        (answer = true ↔ Assignable hierarchy source target) := by
  split
  · next same =>
      subst same
      exact .pure fun _ _ _ _ => by simp [Assignable.same]
  next differ =>
  split
  · next primitive =>
      rw [Bool.or_eq_true] at primitive
      refine .pure fun _ _ _ _ => ?_
      simp [assignable_primitive_iff apart primitive, differ]
  next reference =>
  split
  · next array =>
      have other : isArray target = false := by simpa [array] using apart
      refine .pure fun _ _ _ _ => ?_
      simp [assignable_array_iff array other]
  next single =>
  rw [Bool.not_eq_true] at single
  split
  · next array =>
      refine .pure fun _ _ _ _ => ?_
      simp [not_assignable_to_array single array]
  next plain =>
  -- From here on both types are classes.
  simp only [Bool.or_eq_true, not_or, Bool.not_eq_true] at reference plain
  have ofClass : isClass source = true := by simp [isClass, reference.1, single]
  have toClass : isClass target = true := by simp [isClass, reference.2, plain]
  rw [assignable_class_iff ofClass toClass]
  split
  · next top => exact .pure fun _ _ _ _ => by simp [top]
  · next proper =>
      refine (reaches_triple target complete limit [source] []).weaken ?_ ?_
      · rintro _ _ rfl _
        exact ⟨.start hierarchy source target, enough⟩
      · intro record answer _ found tells
        simp [found tells, proper]

/-- The test of any two types. -/
theorem isAssignable_triple
    (source target : String) {roster : Finset String}
    (complete : ∀ type, hierarchy.Ascends (strippedSource source target) type → type ∈ roster)
    {limit : Nat} (enough : effort hierarchy roster [strippedSource source target] [] ≤ limit) :
    Triple (searchRule hierarchy (strippedSource source target)) (fun record _ => record = [])
      (isAssignable limit source target)
      fun record answer _ => Tells record hierarchy →
        (answer = true ↔ Assignable hierarchy source target) := by
  have stripped : _ ↔ Assignable hierarchy _ _ :=
    assignable_stripCommon_iff source.toList target.toList
  rw [String.ofList_toList, String.ofList_toList] at stripped
  rw [← stripped]
  exact compare_triple (not_isArray_stripCommon _ _) complete enough

end Evaluation

open Dialogue Evaluation Signature

/--
Let a target tell the supertypes of a hierarchy, and let finitely many types lie above the source
once the dimensions that it shares with the other type are stripped.  Then there is a number of
types beyond which the limit of the search does not matter: whatever the exchanges are, the test
asks only for the supertypes of types above the source, for those of each type once; its answer
says whether the source is assignable; and it stops early only when the target fails to tell the
supertypes of such a type, for the reason that the target gives.
-/
theorem isAssignable_decides
    {hierarchy : Hierarchy} {source target : String}
    (finite : {type | hierarchy.Ascends (strippedSource source target) type}.Finite) :
    ∃ enough, ∀ limit ≥ enough, ∀ activation record, Tells record hierarchy →
      (∀ inquiry, ((isAssignable limit source target).start activation).Asks record inquiry →
        ∃ type, inquiry = .operation (.supertypes type) ∧
          hierarchy.Ascends (strippedSource source target) type ∧
          type ∉ askedTypes record) ∧
      (∀ answer after,
        ((isAssignable limit source target).start activation).Ends record (.ok answer, after) →
          (answer = true ↔ Assignable hierarchy source target)) ∧
      ∀ halt after,
        ((isAssignable limit source target).start activation).Ends record (.error halt, after) →
          ∃ earlier type, record = earlier ++ [failure (.supertypes type) halt] ∧
            hierarchy.Ascends (strippedSource source target) type := by
  refine ⟨effort hierarchy finite.toFinset [strippedSource source target] [], ?_⟩
  intro limit enough activation record tells
  have whole := (meets_iff _ _).1
    (isAssignable_triple source target (fun _ above => finite.mem_toFinset.2 above) enough
      [] activation rfl)
  simp only [List.nil_append] at whole
  refine ⟨fun inquiry asks => ?_, fun answer after ends => ?_, fun halt after ends => ?_⟩
  · exact whole.1 record inquiry asks tells
  · exact whole.2 record _ ends tells
  · exact whole.2 record _ ends tells

/-- A hierarchy in which a queue is a bag and a list, a list is a bag, and a bag is a queue. -/
def bags : Hierarchy := fun type =>
  if type = "LQueue;" then ["LBag;", "LList;"]
  else if type = "LList;" then ["LBag;"]
  else if type = "LBag;" then ["LQueue;"]
  else []

/-- The search for bags above queues looks at lists first. -/
def bagsTold : Evaluation.Record :=
  [success (.supertypes "LQueue;") ["LBag;", "LList;"],
    success (.supertypes "LList;") ["LBag;"]]

theorem array_of_queues_isAssignable :
    {type | bags.Ascends (strippedSource "[LQueue;" "[LBag;") type}.Finite ∧
      Tells bagsTold bags ∧
      (∃ limit after,
        ((isAssignable limit "[LQueue;" "[LBag;").start ⟨7, .empty⟩).Ends bagsTold
          (.ok true, after)) ∧
      Assignable bags "[LQueue;" "[LBag;" := by
  have finite : {type | bags.Ascends (strippedSource "[LQueue;" "[LBag;") type}.Finite := by
    refine Set.Finite.subset (Set.toFinite {"LQueue;", "LList;", "LBag;"}) ?_
    intro type ascends
    refine Hierarchy.Ascends.mem_of_closed ascends _ ?_ ?_
    · rintro type (rfl | rfl | rfl) parent direct <;> simp [bags] at direct ⊢ <;> tauto
    · decide
  have tells : Tells bagsTold bags := by
    intro type parents member
    simp [bagsTold] at member
    rcases member with ⟨rfl, rfl⟩ | ⟨rfl, rfl⟩ <;> rfl
  obtain ⟨enough, decides⟩ := isAssignable_decides finite
  have ends : ((isAssignable (enough + 3) "[LQueue;" "[LBag;").start ⟨7, .empty⟩).Ends bagsTold
      (.ok true, ⟨7, .empty⟩) := .ask (.ask .done)
  obtain ⟨-, answers, -⟩ := decides (enough + 3) (Nat.le_add_right _ _) ⟨7, .empty⟩ bagsTold tells
  exact ⟨finite, tells, ⟨_, _, ends⟩, (answers true _ ends).1 rfl⟩

end FrameEval
