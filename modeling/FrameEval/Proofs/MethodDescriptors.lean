import FrameEval.Member
import Mathlib.Data.List.Basic

/-!
# Method descriptors

A method is described by the descriptors of its parameters, one after another in parentheses, and
whatever stands for its result.  No separator stands between the parameters, but each tells by
itself where it ends, so the list is split into just the descriptors that it was made of.  A
selector by arity therefore selects by the true number of parameters.
-/

namespace FrameEval

namespace Signature

/-- A field descriptor: a bracket for each dimension, and then the letter of a primitive type or a
class name between `L` and `;`. -/
inductive IsField : List Char → Prop where
  | primitive (letter : Char) (known : letter ∈ ['B', 'C', 'D', 'F', 'I', 'J', 'S', 'Z']) :
      IsField [letter]
  | object (name : List Char) (unended : ';' ∉ name) (unclosed : ')' ∉ name) :
      IsField ('L' :: (name ++ [';']))
  | array {component : List Char} (field : IsField component) : IsField ('[' :: component)

/-- The descriptor of a method with given parameters. -/
def methodDescriptor (parameters : List String) (result : String) : String :=
  "(" ++ String.join parameters ++ ")" ++ result

/-! ## Splitting -/

theorem split?_className
    {name : List Char} (unended : ';' ∉ name) (before rest : List Char) :
    split? (.className before) (name ++ ';' :: rest) =
      (split? (.dimensions []) rest).map ((before.reverse ++ (name ++ [';'])) :: ·) := by
  induction name generalizing before with
  | nil => simp [split?]
  | cons letter name ih =>
      have inside : letter ≠ ';' := fun same => unended (same ▸ List.mem_cons_self)
      have later : ';' ∉ name := fun member => unended (List.mem_cons_of_mem letter member)
      rw [List.cons_append, split?, if_neg inside, ih later]
      simp

/-- A descriptor ends where it says, after whatever brackets stand before it. -/
theorem IsField.split?_append
    {letters : List Char} (field : IsField letters) (before rest : List Char) :
    split? (.dimensions before) (letters ++ rest) =
      (split? (.dimensions []) rest).map ((before.reverse ++ letters) :: ·) := by
  induction field generalizing before with
  | primitive letter known =>
      have ordinary : letter ≠ '[' ∧ letter ≠ 'L' ∧ letter.toNat < 128 := by
        simp only [List.mem_cons, List.not_mem_nil, or_false] at known
        rcases known with rfl | rfl | rfl | rfl | rfl | rfl | rfl | rfl <;> decide
      rw [List.singleton_append, split?, if_neg ordinary.1, if_neg ordinary.2.1,
        if_pos ordinary.2.2]
      simp
  | object name unended unclosed =>
      have named : 'L' :: (name ++ [';']) ++ rest = 'L' :: (name ++ ';' :: rest) := by simp
      rw [named, split?, if_neg (by decide), if_pos rfl, split?_className unended]
      simp
  | array field ih =>
      rw [List.cons_append, split?, if_pos rfl, ih]
      simp

theorem split?_flatten
    {parameters : List (List Char)} (fields : ∀ one ∈ parameters, IsField one) :
    split? (.dimensions []) parameters.flatten = some parameters := by
  induction parameters with
  | nil => rfl
  | cons first later ih =>
      rw [List.flatten_cons, (fields first List.mem_cons_self).split?_append,
        ih fun one member => fields one (List.mem_cons_of_mem first member)]
      rfl

/-- No parenthesis stands in a descriptor. -/
theorem IsField.unclosed
    {letters : List Char} (field : IsField letters) : ')' ∉ letters := by
  induction field with
  | primitive letter known =>
      rintro member
      rw [List.mem_singleton] at member
      subst member
      exact absurd known (by decide)
  | object name unended unclosed => simp [unclosed]
  | array field ih => simp [ih]

section

variable {parameters : List String}

theorem parameterText_methodDescriptor
    (fields : ∀ one ∈ parameters, IsField one.toList) (result : String) :
    parameterText (methodDescriptor parameters result).toList =
      (parameters.map String.toList).flatten := by
  have whole : (methodDescriptor parameters result).toList =
      '(' :: ((parameters.map String.toList).flatten ++ ')' :: result.toList) := by
    simp [methodDescriptor, List.flatMap]
  have unclosed : ∀ letter ∈ (parameters.map String.toList).flatten, letter ≠ ')' := by
    rintro letter member rfl
    rcases List.mem_flatten.1 member with ⟨letters, among, inside⟩
    rcases List.mem_map.1 among with ⟨one, given, rfl⟩
    exact (fields one given).unclosed inside
  rw [whole, parameterText,
    List.takeWhile_append_of_pos fun letter member => decide_eq_true (unclosed letter member)]
  simp

theorem parameters?_methodDescriptor
    (fields : ∀ one ∈ parameters, IsField one.toList) (result : String) :
    parameters? (methodDescriptor parameters result) = some parameters := by
  have split := split?_flatten (List.forall_mem_map.2 fields)
  rw [parameters?, parameterText_methodDescriptor fields, split]
  simp

theorem arity?_methodDescriptor
    (fields : ∀ one ∈ parameters, IsField one.toList) (result : String) :
    arity? (methodDescriptor parameters result) = some parameters.length := by
  rw [arity?, parameters?_methodDescriptor fields]
  rfl

end

end Signature

open Signature

/-! ## Selectors -/

namespace MethodSelector

/-- A selector by arity has an answer wherever parameters can be counted. -/
theorem selects?_of_arity?
    {selector : MethodSelector} (unsigned : selector.signature = none) {signature : String}
    {count : Nat} (counted : Signature.arity? signature = some count) (name : String) :
    selector.selects? name signature =
      some (decide (name = selector.name ∧ selector.arity = count)) := by
  rw [selects?, unsigned]
  by_cases named : name = selector.name <;> simp [named, counted, eq_comm]

/-- A selector by signature has an answer everywhere. -/
theorem selects?_of_signature
    {selector : MethodSelector} {signature : String} (signed : selector.signature = some signature)
    (other descriptor : String) :
    selector.selects? other descriptor =
      some (decide (other = selector.name ∧ descriptor = signature)) := by
  rw [selects?, signed]
  by_cases named : other = selector.name <;> simp [named, eq_comm]

end MethodSelector

/-- The descriptor of a method is split into the descriptors of its parameters, and selectors by
arity and by signature select it accordingly. -/
theorem method_descriptors_are_split
    {parameters : List String} (fields : ∀ one ∈ parameters, IsField one.toList)
    (result : String) :
    Signature.parameters? (methodDescriptor parameters result) = some parameters ∧
      Signature.arity? (methodDescriptor parameters result) = some parameters.length ∧
      (∀ (selector : MethodSelector) (name : String), selector.signature = none →
        selector.selects? name (methodDescriptor parameters result) =
          some (decide (name = selector.name ∧ selector.arity = parameters.length))) ∧
      ∀ name : String, ∃ selector : MethodSelector,
        MethodSelector.ofSignature? name (methodDescriptor parameters result) = some selector ∧
          selector.arity = parameters.length ∧
          ∀ other descriptor : String,
            selector.selects? other descriptor =
              some (decide (other = name ∧ descriptor = methodDescriptor parameters result)) := by
  have number := arity?_methodDescriptor fields result
  refine ⟨parameters?_methodDescriptor fields result, number, ?_, fun name => ?_⟩
  · intro selector name unsigned
    exact MethodSelector.selects?_of_arity? unsigned number name
  · refine ⟨⟨name, some (methodDescriptor parameters result), parameters.length⟩, ?_, rfl, ?_⟩
    · rw [MethodSelector.ofSignature?, number]
      rfl
    · exact MethodSelector.selects?_of_signature rfl

/-- A class name outside ASCII with the letters of types and brackets in it, between arrays. -/
theorem hard_descriptor_is_split :
    (∀ one ∈ ["[[J", "L[I(é/V日Z;", "[Ljava/lang/Object;", "Z"], IsField one.toList) ∧
      Signature.parameters? "([[JL[I(é/V日Z;[Ljava/lang/Object;Z)L);" =
        some ["[[J", "L[I(é/V日Z;", "[Ljava/lang/Object;", "Z"] ∧
      (MethodSelector.ofArity "put" 4).signature = none ∧
      (MethodSelector.ofArity "put" 4).selects? "put"
        "([[JL[I(é/V日Z;[Ljava/lang/Object;Z)L);" = some true := by
  have fields : ∀ one ∈ ["[[J", "L[I(é/V日Z;", "[Ljava/lang/Object;", "Z"],
      IsField one.toList := by
    intro one member
    simp only [List.mem_cons, List.not_mem_nil, or_false] at member
    rcases member with rfl | rfl | rfl | rfl
    · exact .array (.array (.primitive 'J' (by decide)))
    · exact .object "[I(é/V日Z".toList (by decide) (by decide)
    · exact .array (.object "java/lang/Object".toList (by decide) (by decide))
    · exact .primitive 'Z' (by decide)
  have split := method_descriptors_are_split fields "L);"
  exact ⟨fields, split.1, rfl, split.2.2.1 (.ofArity "put" 4) "put" rfl⟩

end FrameEval
