import FrameEval.Heap.Member
import FrameEval.Proofs.PartialSearch
import Mathlib.Data.List.Nodup
import Mathlib.Data.List.Perm.Subperm

/-!
# Chains of superclasses

A class, its superclass, and so on up to a class without one, all of them loaded: such a chain
visits no class twice, so it is not longer than the number of loaded classes.  The lineage of a
class, which is cut off at that length, is therefore the whole chain.
-/

namespace FrameEval

open Wire

namespace Table

variable {Key Value : Type} [DecidableEq Key] {table : Table Key Value} {key : Key} {value : Value}

/-- What is bound to a key is bound to it in the list of bindings. -/
theorem mem_bindings_of_find?
    (bound : table.find? key = some value) : (key, value) ∈ table.bindings := by
  rw [find?, Option.map_eq_some_iff] at bound
  rcases bound with ⟨⟨other, held⟩, found, rfl⟩
  have same : other = key := by simpa using List.find?_some found
  rw [← same]
  exact List.mem_of_find?_eq_some found

end Table

namespace Heap

variable {Body : Type} {heap : Heap Body} {signature : String}
  {classes : List (TypeId × ClassDefinition Body)}

theorem mem_keys_of_class?
    {found : TypeId × ClassDefinition Body} (loaded : heap.class? signature = .ok found) :
    signature ∈ heap.classIds.keys := by
  rw [class?] at loaded
  split at loaded
  · cases loaded
  · next bound => exact Table.mem_keys_iff.2 (ne_of_eq_of_ne bound (Option.some_ne_none _))

/-- A class with its superclasses up to one that has none, all of them loaded. -/
inductive Ascent (heap : Heap Body) : String → List (TypeId × ClassDefinition Body) → Prop
  | root {signature : String} {found : TypeId × ClassDefinition Body}
      (loaded : heap.class? signature = .ok found) (top : found.2.superclass = none) :
      Ascent heap signature [found]
  | derived {signature superclass : String} {found : TypeId × ClassDefinition Body}
      {above : List (TypeId × ClassDefinition Body)}
      (loaded : heap.class? signature = .ok found)
      (below : found.2.superclass = some superclass) (ascent : Ascent heap superclass above) :
      Ascent heap signature (found :: above)

/-- Every loaded class has such superclasses. -/
def Grounded (heap : Heap Body) : Prop :=
  ∀ signature found, heap.class? signature = .ok found → ∃ classes, heap.Ascent signature classes

/-- It is enough to look at the signatures of the loaded classes. -/
theorem grounded_of_keys
    (chains : ∀ signature ∈ heap.classIds.keys, ∃ classes, heap.Ascent signature classes) :
    heap.Grounded :=
  fun signature _ loaded => chains signature (mem_keys_of_class? loaded)

namespace Ascent

/-- The first class of the chain is the class itself. -/
theorem first
    (ascent : heap.Ascent signature classes) :
    ∃ found above, classes = found :: above ∧ heap.class? signature = .ok found := by
  cases ascent with
  | root loaded => exact ⟨_, _, rfl, loaded⟩
  | derived loaded => exact ⟨_, _, rfl, loaded⟩

theorem unique
    (ascent : heap.Ascent signature classes) {others : List (TypeId × ClassDefinition Body)}
    (other : heap.Ascent signature others) : classes = others := by
  induction ascent generalizing others with
  | root loaded top =>
      cases other with
      | root loaded' =>
          rw [loaded] at loaded'
          cases loaded'
          rfl
      | derived loaded' below =>
          rw [loaded] at loaded'
          cases loaded'
          rw [top] at below
          cases below
  | derived loaded below ascent ih =>
      cases other with
      | root loaded' top =>
          rw [loaded] at loaded'
          cases loaded'
          rw [top] at below
          cases below
      | derived loaded' below' ascent' =>
          rw [loaded] at loaded'
          cases loaded'
          rw [below] at below'
          cases below'
          rw [ih ascent']

/-- The classes of a chain have different signatures, each of which starts a shorter chain. -/
theorem signatures
    (ascent : heap.Ascent signature classes) :
    ∃ names : List String, names.length = classes.length ∧ names.Nodup ∧
      ∀ name ∈ names, ∃ part, heap.Ascent name part ∧ part.length ≤ classes.length := by
  induction ascent with
  | @root signature found loaded top =>
      refine ⟨[signature], rfl, List.nodup_singleton signature, ?_⟩
      intro name member
      rw [List.mem_singleton.1 member]
      exact ⟨[found], .root loaded top, Nat.le_refl 1⟩
  | @derived signature superclass found above loaded below ascent ih =>
      rcases ih with ⟨names, length, distinct, shorter⟩
      have whole : heap.Ascent signature (found :: above) := .derived loaded below ascent
      refine ⟨signature :: names, by simp [length], List.nodup_cons.2 ⟨?_, distinct⟩, ?_⟩
      · -- a class that came again further up would start two chains of different lengths
        intro again
        rcases shorter signature again with ⟨part, starts, short⟩
        rw [starts.unique whole, List.length_cons] at short
        omega
      · intro name member
        rcases List.mem_cons.1 member with rfl | member
        · exact ⟨_, whole, Nat.le_refl _⟩
        · rcases shorter name member with ⟨part, starts, short⟩
          exact ⟨part, starts, Nat.le_succ_of_le short⟩

theorem length_le
    (ascent : heap.Ascent signature classes) : classes.length ≤ heap.classIds.size := by
  rcases ascent.signatures with ⟨names, length, distinct, starts⟩
  have loaded : names ⊆ heap.classIds.keys := by
    intro name member
    rcases starts name member with ⟨part, ascent, -⟩
    rcases ascent.first with ⟨found, above, -, loaded⟩
    exact mem_keys_of_class? loaded
  have few := (List.subperm_of_subset distinct loaded).length_le
  rwa [length, Table.keys, List.length_map] at few

theorem lineageWithin_eq
    (ascent : heap.Ascent signature classes) {limit : Nat} (enough : classes.length ≤ limit) :
    heap.lineageWithin limit signature = .ok classes := by
  induction ascent generalizing limit with
  | root loaded top =>
      cases limit with
      | zero => cases enough
      | succ limit =>
          simp only [lineageWithin, loaded, bind, Except.bind, top]
          rfl
  | derived loaded below ascent ih =>
      cases limit with
      | zero => cases enough
      | succ limit =>
          have rest := ih (Nat.le_of_succ_le_succ enough)
          simp only [lineageWithin, loaded, bind, Except.bind, below, rest]
          rfl

/-- The lineage of a class is its whole chain of superclasses. -/
theorem lineage_eq
    (ascent : heap.Ascent signature classes) : heap.lineage signature = .ok classes :=
  ascent.lineageWithin_eq (Nat.le_succ_of_le ascent.length_le)

end Ascent

theorem lineage_of_unloaded
    {error : EvalError} (unloaded : heap.class? signature = .error error) :
    heap.lineage signature = .error error := by
  rw [lineage, lineageWithin, unloaded]
  rfl

end Heap

/-! ## Members -/

section

variable {Body : Type}

/-- A field at its place in a class. -/
def FieldDefinition.ref (id : TypeId) (place : Nat × FieldDefinition) : FieldRef :=
  ⟨id, UInt64.ofNat place.1, place.2.name, place.2.signature, place.2.isStatic⟩

/-- The fields of a class as a lookup finds them. -/
def ClassDefinition.fieldRefs (definition : ClassDefinition Body) (id : TypeId) : List FieldRef :=
  definition.fields.zipIdx.map fun entry => FieldDefinition.ref id (entry.2, entry.1)

end

/-- Whether a field is one that a search looks for. -/
def FieldRef.isWanted (name : String) (wantStatic : Option Bool) (field : FieldRef) : Bool :=
  field.name = name && (wantStatic = none || wantStatic = some field.isStatic)

namespace Heap

variable {Body α β : Type}

theorem map_firstWith
    (test : α → Bool) (wanted : β → Bool) (pack : Nat × α → β)
    (agree : ∀ index item, wanted (pack (index, item)) = test item) (start : Nat)
    (items : List α) :
    (firstWith test start items).map pack =
      ((items.zipIdx start).map fun entry => pack (entry.2, entry.1)).find? wanted := by
  induction items generalizing start with
  | nil => rfl
  | cons item rest ih =>
      rw [firstWith, List.zipIdx_cons, List.map_cons, List.find?_cons, agree]
      cases test item with
      | true => rfl
      | false => exact ih (start + 1)

/-- The first wanted field in a list of classes. -/
def nearestField (wanted : FieldRef → Bool) (classes : List (TypeId × ClassDefinition Body)) :
    Option FieldRef :=
  classes.findSome? fun entry => (entry.2.fieldRefs entry.1).find? wanted

/-- The first wanted method in a list of classes; there is none if the search breaks off. -/
def nearestMethod (wanted : MethodRef → Option Bool)
    (classes : List (TypeId × ClassDefinition Body)) : Option MethodRef :=
  ((classes.flatMap fun entry => entry.2.methodRefs entry.1).findM? wanted).join

/-- The first class decides, unless its search comes to its end. -/
theorem nearestMethod_cons
    (wanted : MethodRef → Option Bool) (entry : TypeId × ClassDefinition Body)
    (classes : List (TypeId × ClassDefinition Body)) :
    nearestMethod wanted (entry :: classes) =
      ((entry.2.methodRefs entry.1).findM? wanted).bind fun found =>
        match found with
        | some method => some method
        | none => nearestMethod wanted classes := by
  rw [nearestMethod, List.flatMap_cons, findM?_append]
  cases (entry.2.methodRefs entry.1).findM? wanted with
  | none => rfl
  | some found => cases found <;> rfl

theorem fieldIn?_eq (name : String) (classes : List (TypeId × ClassDefinition Body)) :
    fieldIn? name classes = nearestField (FieldRef.isWanted name none) classes := by
  rw [fieldIn?, nearestField]
  congr 1
  funext entry
  have packed := map_firstWith (fun field : FieldDefinition => field.name = name)
    (FieldRef.isWanted name none) (FieldDefinition.ref entry.1)
    (fun _ _ => Bool.and_true _) 0 entry.2.fields
  refine Eq.trans ?_ packed
  cases firstWith (fun field => decide (field.name = name)) 0 entry.2.fields <;> rfl

theorem join_methodIn?
    (selector : MethodSelector) (wantStatic : Bool)
    (classes : List (TypeId × ClassDefinition Body)) :
    (methodIn? selector wantStatic classes).join =
      nearestMethod (MethodRef.isWanted? selector wantStatic) classes := rfl

/-! ## Lookups -/

theorem toOption_bind
    {ε γ : Type} (first : Except ε β) (onward : β → Except ε γ) :
    (first >>= onward).toOption = first.toOption.bind fun value => (onward value).toOption := by
  cases first <;> rfl

theorem toOption_mapError
    {ε ε' : Type} (wrap : ε → ε') (result : Except ε β) :
    (result.mapError wrap).toOption = result.toOption := by
  cases result <;> rfl

theorem toOption_findField (heap : Heap Body) (className name : String) :
    (heap.findField className name).toOption =
      (heap.lineage className).toOption.bind (nearestField (FieldRef.isWanted name none)) := by
  rw [findField, toOption_bind]
  congr 1
  funext classes
  rw [← fieldIn?_eq]
  cases fieldIn? name classes <;> rfl

theorem toOption_staticField (heap : Heap Body) (className name : String) :
    (heap.staticField className name).toOption =
      ((heap.lineage className).toOption.bind
        (nearestField (FieldRef.isWanted name none))).filter FieldRef.isStatic := by
  rw [staticField, toOption_bind, toOption_findField]
  cases (heap.lineage className).toOption.bind (nearestField (FieldRef.isWanted name none)) with
  | none => rfl
  | some field =>
      dsimp only [Option.bind_some]
      split
      · next static => simp [static, Option.filter]; rfl
      · next static => simp [static, Option.filter]; rfl

theorem toOption_findMethod
    (heap : Heap Body) (className : String) (selector : MethodSelector)
    (wantStatic inherited : Bool) :
    (heap.findMethod className selector wantStatic inherited).toOption =
      (heap.lineage className).toOption.bind fun classes =>
        nearestMethod (MethodRef.isWanted? selector wantStatic)
          (if inherited then classes else classes.take 1) := by
  rw [findMethod, toOption_bind, toOption_mapError]
  congr 1
  funext classes
  rw [← join_methodIn?]
  dsimp only
  cases methodIn? selector wantStatic (if inherited then classes else classes.take 1) with
  | none => rfl
  | some found => cases found <;> rfl

end Heap

end FrameEval
