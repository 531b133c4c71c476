import FrameEval.Evaluation.Context
import FrameEval.Proofs.Evaluation.Triple
import Mathlib.Data.List.Forall2

/-!
# How an evaluation treats its target

What is known when an evaluation puts an operation: the values that it hands over fit the types
declared where they are stored, the members that it names were found by a lookup of its own,
and a frame is addressed by the id that the evaluation holds for it.  `Proper` collects these
facts.  They refer to the record, so that a runtime type counts only once it has been asked for.
-/

namespace FrameEval

open Wire

namespace Operation

/-- The values that an operation hands over to be stored or passed on. -/
def handsOver : Operation → List RemoteValue
  | setFrameValue _ _ _ value => [value]
  | arraySet _ _ value => [value]
  | setField _ _ value => [value]
  | invoke _ _ _ arguments => arguments
  | newInstance _ _ arguments => arguments
  | _ => []

/-- The signatures that are declared where these values go, in the same order.  A method whose
parameters cannot be split declares none. -/
def declares? : Operation → Option (List String)
  | setFrameValue _ _ slot _ => some [slot.signature]
  | arraySet array _ _ => some [array.element.signature]
  | setField _ field _ => some [field.signature]
  | invoke _ _ method _ => Signature.parameters? method.signature
  | newInstance _ method _ => Signature.parameters? method.signature
  | _ => some []

/-- The thread and the frame id by which an operation accesses a frame. -/
def frameAccess? : Operation → Option (ThreadId × FrameId)
  | thisObject thread id => some (thread, id)
  | frameValues thread id _ => some (thread, id)
  | setFrameValue thread id _ _ => some (thread, id)
  | _ => none

/-- Whether an operation fetches a frame and thus its id. -/
def fetchesFrame : Operation → Bool
  | frame _ _ => true
  | _ => false

/-- The element of an array that an operation touches. -/
def element? : Operation → Option (ArrayHandle × Int32)
  | arrayGet array index => some (array, index)
  | arraySet array index _ => some (array, index)
  | _ => none

/-- Whether an operation neither touches a frame nor hands over a value nor runs code. -/
def isPlain : Operation → Bool
  | createString _ => true
  | stringValue _ => true
  | typeSignature _ => true
  | supertypes _ => true
  | arrayLength _ => true
  | arrayGet _ _ => true
  | newArray _ _ => true
  | instanceField _ _ => true
  | staticField _ _ => true
  | getField _ _ => true
  | instanceMethod _ _ => true
  | staticMethod _ _ => true
  | constructor _ _ => true
  | _ => false

end Operation

namespace RemoteValue

/-- Whether a value stands for an object or an array in the target. -/
def isHandle : RemoteValue → Bool
  | object _ => true
  | array _ => true
  | _ => false

end RemoteValue

namespace Evaluation

/-! ## Searches of the supertypes -/

section Search

variable {rule : Rule} {fact : Record → Activation → Prop}

/-- A search keeps what each lookup of supertypes keeps. -/
theorem Triple.reaches
    (looksUp : ∀ type, Triple rule fact (Evaluation.perform (.supertypes type))
      fun record _ activation => fact record activation)
    (exhausts : ∀ record activation, fact record activation → rule.stops record .exhausted)
    (target : String) (limit : Nat) (pending seen : List String) :
    Triple rule fact (Evaluation.reaches target limit pending seen)
      fun record _ activation => fact record activation := by
  induction limit generalizing pending seen with
  | zero =>
      cases pending with
      | nil => exact .pure fun _ _ known => known
      | cons signature pending => exact .exhaust exhausts
  | succ limit ih =>
      cases pending with
      | nil => exact .pure fun _ _ known => known
      | cons signature pending =>
          rw [Evaluation.reaches]
          split
          · exact .pure fun _ _ known => known
          · split
            · exact ih pending seen
            · exact (looksUp signature).bind fun supertypes => ih _ _

theorem Triple.isAssignable
    (looksUp : ∀ type, Triple rule fact (Evaluation.perform (.supertypes type))
      fun record _ activation => fact record activation)
    (exhausts : ∀ record activation, fact record activation → rule.stops record .exhausted)
    (limit : Nat) (source target : String) :
    Triple rule fact (Evaluation.isAssignable limit source target)
      fun record _ activation => fact record activation := by
  unfold Evaluation.isAssignable
  dsimp only
  repeat' split
  all_goals first
    | exact .pure fun _ _ known => known
    | exact .reaches looksUp exhausts _ _ _ _

end Search

/-! ## Facts about operations -/

/-- By the exchanges of a record an evaluation returns a value. -/
def Returns {α : Type} (evaluation : Evaluation α) (record : Record) (value : α) : Prop :=
  ∃ before after, (evaluation.start before).Ends record (.ok value, after)

/--
The target was asked for the runtime type of a value, and a search of its hierarchy, made on
the answer, found the type assignable to the declared one.
-/
def Judged (limit : Nat) (record : Record) (value : RemoteValue) (declared : String) : Prop :=
  ∃ before runtime walk after,
    record = before ++ success (.typeSignature value) runtime :: (walk ++ after) ∧
      Returns (isAssignable limit runtime declared) walk true

/-- A value is one of the type declared where it is stored. -/
def Fits (limit : Nat) (record : Record) (value : RemoteValue) (declared : String) : Prop :=
  match PrimitiveKind.ofSignature? declared with
  | some kind => ∃ given, value = .primitive given ∧ given.kind = kind
  | none => value = .null ∨ value.isHandle = true ∧ Judged limit record value declared

theorem fits_primitive
    {limit : Nat} {record : Record} {value : RemoteValue} {declared : String}
    {kind : PrimitiveKind} (primitive : PrimitiveKind.ofSignature? declared = some kind) :
    Fits limit record value declared ↔
      ∃ given, value = .primitive given ∧ given.kind = kind := by
  simp only [Fits, primitive]

theorem fits_reference
    {limit : Nat} {record : Record} {value : RemoteValue} {declared : String}
    (reference : PrimitiveKind.ofSignature? declared = none) :
    Fits limit record value declared ↔
      value = .null ∨ value.isHandle = true ∧ Judged limit record value declared := by
  simp only [Fits, reference]

theorem lasting_judged
    (limit : Nat) (value : RemoteValue) (declared : String) :
    Lasting fun record => Judged limit record value declared := by
  rintro record added ⟨before, runtime, walk, after, rfl, returns⟩
  exact ⟨before, runtime, walk, after ++ added, by simp, returns⟩

theorem lasting_fits
    (limit : Nat) (value : RemoteValue) (declared : String) :
    Lasting fun record => Fits limit record value declared := by
  intro record added fits
  cases sort : PrimitiveKind.ofSignature? declared with
  | some kind => exact (fits_primitive sort).2 ((fits_primitive sort).1 fits)
  | none =>
      rw [fits_reference sort] at fits ⊢
      rcases fits with null | ⟨handle, judged⟩
      · exact .inl null
      · exact .inr ⟨handle, lasting_judged limit value declared record added judged⟩

/-- What an operation names was found by a lookup: a slot among the symbols of the frame, a
field or a method among the answers of the target. -/
def Resolved (setting : Setting) (record : Record) : Operation → Prop
  | .setFrameValue _ _ slot _ => ∃ name, setting.binding.symbols.find? name = some slot
  | .setField (some receiver) field _ =>
      ∃ name, success (.instanceField receiver name) field ∈ record
  | .setField none field _ =>
      ∃ className name, success (.staticField className name) field ∈ record
  | .invoke _ (some receiver) method _ =>
      ∃ selector, success (.instanceMethod receiver selector) method ∈ record
  | .invoke _ none method _ =>
      ∃ className selector, success (.staticMethod className selector) method ∈ record
  | .newInstance _ constructor _ =>
      ∃ className selector, success (.constructor className selector) constructor ∈ record
  | _ => True

/-- The values that an operation hands over, one by one, fit the types declared for them. -/
def Conforms (limit : Nat) (record : Record) (operation : Operation) : Prop :=
  ∃ declared, operation.declares? = some declared ∧
    List.Forall₂ (Fits limit record) operation.handsOver declared

/-- So does an operation that hands over nothing and for which nothing is declared. -/
theorem conforms_of_nil
    {limit : Nat} {record : Record} {operation : Operation}
    (nothing : operation.handsOver = []) (undeclared : operation.declares? = some []) :
    Conforms limit record operation :=
  ⟨[], undeclared, nothing ▸ .nil⟩

/-- What is known of every operation that an evaluation puts, the fetching of its frame apart. -/
structure Proper (setting : Setting) (record : Record) (activation : Activation)
    (operation : Operation) : Prop where
  conforms : Conforms setting.searchLimit record operation
  resolved : Resolved setting record operation
  addressed : ∀ access ∈ operation.frameAccess?,
    access = (setting.binding.thread, activation.frameId)
  keepsFrame : operation.fetchesFrame = false

theorem proper_of_isPlain
    {setting : Setting} {record : Record} {activation : Activation} (operation : Operation)
    (plain : operation.isPlain = true) :
    Proper setting record activation operation ∧ operation.runsCode = false := by
  cases operation <;> first
    | exact absurd plain Bool.false_ne_true
    | exact ⟨⟨conforms_of_nil rfl rfl, trivial, by simp [Operation.frameAccess?], rfl⟩, rfl⟩

/--
From one record to another the target ran code for the evaluation and the frame was then
fetched again.
-/
inductive Invoked (binding : Binding) (before : Record) :
    InvokeOutcome → FrameInfo → Record → Prop where
  | method
      {thread : ThreadId} {receiver : Option RemoteValue} {method : MethodRef}
      {arguments : List RemoteValue} {outcome : InvokeOutcome} {info : FrameInfo} :
      Invoked binding before outcome info
        (before ++ [success (.invoke thread receiver method arguments) outcome,
          success (.frame binding.thread binding.depth) info])
  | construction
      {thread : ThreadId} {constructor : MethodRef} {arguments : List RemoteValue}
      {outcome : InvokeOutcome} {info : FrameInfo} :
      Invoked binding before outcome info
        (before ++ [success (.newInstance thread constructor arguments) outcome,
          success (.frame binding.thread binding.depth) info])

/-- Both ways add two exchanges to the record, the fetch of the frame last. -/
theorem Invoked.split
    {binding : Binding} {before later : Record} {outcome : InvokeOutcome} {info : FrameInfo}
    (invoked : Invoked binding before outcome info later) :
    ∃ (operation : Operation) (answer : operation.Answer),
      later = before ++ [success operation answer,
        success (.frame binding.thread binding.depth) info] := by
  cases invoked with
  | method => exact ⟨_, _, rfl⟩
  | construction => exact ⟨_, _, rfl⟩

end Evaluation

end FrameEval
