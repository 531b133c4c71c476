import FrameEval.Proofs.PartialSearch
import FrameEval.Proofs.Remote.CatalogueTarget
import FrameEval.Proofs.TypeRecall

/-!
# The search for a member

A field is looked for along the lineage of a type, and a method first along the lineage and then
among the interfaces, level by level.  A target that describes finitely many types, no class above
itself, answers each search: the nearest type with a member that fits decides, and if there is none
the search fails.  The interfaces may be shared or lie in a circle; each is looked at once.

Two things lead a search astray.  A method of the wanted name whose parameters have to be counted
and cannot be split breaks it off.  And a type that was learned of as an interface is remembered
without its superclass, so a lineage that goes through it seems to end there.
-/

namespace FrameEval.Remote

open Dialogue Wire

/-- Whether a field has a name, and is static or not as wanted. -/
def IsField (name : String) (wantStatic : Option Bool) (field : FieldInfo) : Prop :=
  field.name = name ∧ (wantStatic = none ∨ wantStatic = some field.isStatic)

/-- Whether a method is selected, and is static or not as wanted. -/
def IsMethod (selector : MethodSelector) (wantStatic : Bool) (method : MethodInfo) : Prop :=
  method.isStatic = wantStatic ∧ selector.selects? method.name method.signature = some true

instance (selector : MethodSelector) (wantStatic : Bool) (method : MethodInfo) :
    Decidable (IsMethod selector wantStatic method) :=
  inferInstanceAs (Decidable (_ ∧ _))

namespace TypeMetadata

theorem field?_eq_some_iff
    {metadata : TypeMetadata} {name : String} {wantStatic : Option Bool} {field : FieldInfo} :
    metadata.field? name wantStatic = some field ↔
      First (IsField name wantStatic) metadata.fields field := by
  rw [field?, ← First.iff_find?]
  have same : IsField name wantStatic = fun field =>
      (decide (field.name = name) &&
        (decide (wantStatic = none) || decide (wantStatic = some field.isStatic))) = true := by
    funext field
    simp [IsField]
  rw [same]

theorem selectsAmong?_eq_some_true_iff
    {selector : MethodSelector} {wantStatic : Bool} {method : MethodInfo} :
    selector.selectsAmong? wantStatic method.name method.signature method.isStatic = some true ↔
      IsMethod selector wantStatic method := by
  rw [MethodSelector.selectsAmong?, IsMethod]
  by_cases wanted : method.isStatic = wantStatic
  · rw [if_pos wanted, and_iff_right wanted]
  · rw [if_neg wanted]
    exact iff_of_false (by decide) fun known => wanted known.1

/-- Only the methods of a type matter. -/
theorem method?_congr
    {metadata other : TypeMetadata} (same : metadata.methods = other.methods)
    {selector : MethodSelector} {wantStatic : Bool} :
    metadata.method? selector wantStatic = other.method? selector wantStatic := by
  rw [method?, same]
  rfl

/-- Where all methods of the wanted sort can be counted, the first one that fits is found. -/
theorem method?_eq
    {metadata : TypeMetadata} {selector : MethodSelector} {wantStatic : Bool}
    (splits : ∀ method ∈ metadata.methods,
      selector.Splits wantStatic method.name method.signature method.isStatic) :
    metadata.method? selector wantStatic =
      some (metadata.methods.find? fun method => IsMethod selector wantStatic method) := by
  rw [method?, findM?_of_isSome fun method member =>
    MethodSelector.isSome_selectsAmong? (splits method member)]
  simp only [selectsAmong?_eq_some_true_iff]

end TypeMetadata

namespace Catalogue

/-- Whether a type declares such a field. -/
def HasField
    (catalogue : Catalogue) (name : String) (wantStatic : Option Bool) (id : TypeId) : Prop :=
  ∃ field ∈ (catalogue id).fields, IsField name wantStatic field

/-- Whether a type declares such a method. -/
def HasMethod
    (catalogue : Catalogue) (selector : MethodSelector) (wantStatic : Bool) (id : TypeId) : Prop :=
  ∃ method ∈ (catalogue id).methods, IsMethod selector wantStatic method

instance (catalogue : Catalogue) (selector : MethodSelector) (wantStatic : Bool) (id : TypeId) :
    Decidable (catalogue.HasMethod selector wantStatic id) :=
  inferInstanceAs (Decidable (∃ method ∈ (catalogue id).methods, _))

/-- The name that a search along some types gives to where it started: that of the first one whose
name is not empty. -/
def holder (catalogue : Catalogue) (chain : List TypeId) (name : String) : String :=
  chain.foldl (fun holder id => Errand.startName holder (catalogue id)) name

/-- The text that says what was not found along some types. -/
def missingText (catalogue : Catalogue) (what : String) (chain : List TypeId) (name : String) :
    String :=
  let holder := catalogue.holder chain name
  s!"{what} in {holder}"

variable {catalogue : Catalogue} {id : TypeId}

theorem field?_eq_none_iff {name : String} {wantStatic : Option Bool} :
    (catalogue id).field? name wantStatic = none ↔ ¬ catalogue.HasField name wantStatic id := by
  rw [TypeMetadata.field?, List.find?_eq_none]
  simp [HasField, IsField]

/-- Among the methods of some types, all those that a search has to count can be split. -/
def Splits
    (catalogue : Catalogue) (roster : Finset TypeId) (selector : MethodSelector)
    (wantStatic : Bool) : Prop :=
  ∀ id ∈ roster, ∀ method ∈ (catalogue id).methods,
    selector.Splits wantStatic method.name method.signature method.isStatic

/-- A type declares a method that fits, and the first one is found; or it declares none. -/
theorem method?_cases
    {roster : Finset TypeId} {selector : MethodSelector} {wantStatic : Bool}
    (splits : catalogue.Splits roster selector wantStatic) (listed : id ∈ roster) :
    (∃ method, (catalogue id).method? selector wantStatic = some (some method) ∧
        First (IsMethod selector wantStatic) (catalogue id).methods method) ∨
      (catalogue id).method? selector wantStatic = some none ∧
        ¬ catalogue.HasMethod selector wantStatic id := by
  rw [TypeMetadata.method?_eq (splits id listed)]
  cases found : (catalogue id).methods.find? fun method => IsMethod selector wantStatic method with
  | some method =>
      have first := First.iff_find?.2 found
      simp only [decide_eq_true_eq] at first
      exact .inl ⟨method, rfl, first⟩
  | none =>
      refine .inr ⟨rfl, ?_⟩
      rintro ⟨method, member, fits⟩
      exact absurd (decide_eq_true fits) (List.find?_eq_none.1 found method member)

/-- A type that declares no such method comes after others that do not either. -/
theorem not_hasMethod_concat
    {selector : MethodSelector} {wantStatic : Bool} {before : List TypeId}
    (misses : ∀ type ∈ before, ¬ catalogue.HasMethod selector wantStatic type)
    (here : ¬ catalogue.HasMethod selector wantStatic id) :
    ∀ type ∈ before ++ [id], ¬ catalogue.HasMethod selector wantStatic type := by
  intro type climbed
  rcases List.mem_append.1 climbed with earlier | now
  · exact misses type earlier
  · rw [List.mem_singleton.1 now]
    exact here

end Catalogue

section

variable {State : Type} {link : Surroundings State} {catalogue : Catalogue}
  {roster : Finset TypeId} {start : TypeHandle} {id : TypeId} {chain : List TypeId}

/-! ## Fields -/

/-- How the search for a field along a chain of types ends. -/
inductive FieldEnds
    (catalogue : Catalogue) (name : String) (wantStatic : Option Bool) (chain : List TypeId)
    (text : String) : Except Halt FieldRef → Prop where
  | found
      {id : TypeId} {field : FieldInfo}
      (nearest : First (catalogue.HasField name wantStatic) chain id)
      (first : First (IsField name wantStatic) (catalogue id).fields field) :
      FieldEnds catalogue name wantStatic chain text (.ok (.of id field))
  | missing
      (none : ∀ id ∈ chain, ¬ catalogue.HasField name wantStatic id) :
      FieldEnds catalogue name wantStatic chain text (.error (.failed (.noSuchField text)))

/-- A type without such a field makes no difference. -/
theorem FieldEnds.cons
    {name : String} {wantStatic : Option Bool} {text : String} {result : Except Halt FieldRef}
    (ends : FieldEnds catalogue name wantStatic chain text result)
    (misses : ¬ catalogue.HasField name wantStatic id) :
    FieldEnds catalogue name wantStatic (id :: chain) text result := by
  cases ends with
  | found nearest first => exact .found (nearest.cons misses) first
  | missing none => exact .missing (List.forall_mem_cons.2 ⟨misses, none⟩)

/-- What is learned of a type that the search for a member comes to. -/
abbrev Meets
    (link : Surroundings State) (catalogue : Catalogue) (roster : Finset TypeId)
    (type : TypeHandle) : Prop :=
  Learns link (catalogue.Agrees roster) type (· = catalogue type.id)

/-- A field that the type itself declares is the nearest one. -/
theorem finds_fieldFrom_of_found
    {type : TypeHandle} (meets : Meets link catalogue roster type)
    {name : String} {wantStatic : Option Bool} {field : FieldInfo}
    (here : (catalogue type.id).field? name wantStatic = some field) (limit : Nat)
    (above : List TypeId) (holder text : String) :
    ∃ result visited,
      Finds link (catalogue.Agrees roster)
        (Errand.fieldFrom name wantStatic (limit + 1) holder type) result visited ∧
      FieldEnds catalogue name wantStatic (type.id :: above) text result := by
  have first := TypeMetadata.field?_eq_some_iff.1 here
  refine ⟨_, [type.id], .visit meets ?_, .found (.cons_self ⟨field, first.mem, first.holds⟩) first⟩
  rintro metadata rfl
  simp only [here]
  exact .pure _

theorem finds_fieldFrom
    (describes : link.Describes catalogue roster start) {type : TypeHandle}
    (lineage : catalogue.Lineage type.id chain) (listed : type.id ∈ roster)
    (meets : Meets link catalogue roster type)
    (name : String) (wantStatic : Option Bool) {limit : Nat} (enough : chain.length ≤ limit)
    (holder : String) :
    ∃ result visited,
      Finds link (catalogue.Agrees roster)
        (Errand.fieldFrom name wantStatic limit holder type) result visited ∧
      FieldEnds catalogue name wantStatic chain
        (catalogue.missingText name chain holder) result := by
  rcases lineage.exists_cons with ⟨above, rfl⟩
  induction limit generalizing type above holder with
  | zero => cases enough
  | succ limit ih =>
      cases here : (catalogue type.id).field? name wantStatic with
      | some field => exact finds_fieldFrom_of_found meets here _ _ _ _
      | none =>
          have misses := Catalogue.field?_eq_none_iff.1 here
          cases lineage with
          | root top =>
              refine ⟨_, [type.id], .visit meets ?_, FieldEnds.cons (.missing (by simp)) misses⟩
              rintro metadata rfl
              simp only [here, top]
              exact .fail _
          | @derived _ parent _ below lineage =>
              rcases lineage.exists_cons with ⟨above, rfl⟩
              have listed' : (TypeHandle.ofClass parent).id ∈ roster :=
                describes.closed.superclass type.id listed parent below
              rcases ih listed' (describes.learns_superclass listed below)
                  (Errand.startName holder (catalogue type.id)) above lineage
                  (Nat.le_of_succ_le_succ enough) with
                ⟨result, visited, finds, ends⟩
              refine ⟨result, type.id :: visited, .visit meets ?_, ends.cons misses⟩
              rintro metadata rfl
              have up : (catalogue type.id).superclass = some parent := below
              simp only [here, up]
              exact finds

/-! ## Methods -/

/-- What is learned of an interface above a chain of types. -/
theorem Surroundings.Describes.learns_above
    (describes : link.Describes catalogue roster start)
    (listed : ∀ type ∈ chain, type ∈ roster) {interface : TypeId}
    (above : catalogue.Above chain interface) :
    Learns link (catalogue.Lists roster) (.ofInterface interface) fun metadata =>
      metadata.interfaces = (catalogue interface).interfaces ∧
        metadata.methods = (catalogue interface).methods := by
  rcases above with ⟨type, member, reaches⟩
  cases reaches with
  | single names => exact describes.learns_interface (listed type member) names
  | tail reaches names =>
      have between := Catalogue.Above.mem_roster ⟨type, member, reaches⟩ describes.closed listed
      exact describes.learns_interface between names

/-- How the search for a method among the interfaces of a chain of types ends. -/
inductive SweepEnds
    (catalogue : Catalogue) (selector : MethodSelector) (wantStatic : Bool) (chain : List TypeId)
    (text : String) : Except Halt MethodRef → Prop where
  | found
      {depth : Nat} {id : TypeId} {method : MethodInfo}
      (nearest : First (catalogue.HasMethod selector wantStatic) (catalogue.breadth chain depth) id)
      (first : First (IsMethod selector wantStatic) (catalogue id).methods method) :
      SweepEnds catalogue selector wantStatic chain text (.ok (.of id method))
  | missing
      (none : ∀ id, catalogue.Above chain id → ¬ catalogue.HasMethod selector wantStatic id) :
      SweepEnds catalogue selector wantStatic chain text (.error (.failed (.noSuchMethod text)))

/-- The interfaces that a search looks at: each once, and none that it has seen. -/
def Examines (catalogue : Catalogue) (chain seen examined : List TypeId) : Prop :=
  examined.Nodup ∧ ∀ id ∈ examined, id ∉ seen ∧ catalogue.Above chain id

theorem Examines.nil (catalogue : Catalogue) (chain seen : List TypeId) :
    Examines catalogue chain seen [] :=
  ⟨List.nodup_nil, by simp⟩

theorem Examines.cons
    {seen examined : List TypeId} (examines : Examines catalogue chain (id :: seen) examined)
    (fresh : id ∉ seen) (above : catalogue.Above chain id) :
    Examines catalogue chain seen (id :: examined) := by
  rcases examines with ⟨once, new⟩
  refine ⟨List.nodup_cons.2 ⟨fun again => (new id again).1 List.mem_cons_self, once⟩, ?_⟩
  intro other member
  rcases List.mem_cons.1 member with rfl | later
  · exact ⟨fresh, above⟩
  · rcases new other later with ⟨unseen, aboveOther⟩
    exact ⟨fun known => unseen (List.mem_cons_of_mem id known), aboveOther⟩

/-- Nothing is found once no interface is left. -/
theorem finds_methodOfInterfaces_nil
    {selector : MethodSelector} {wantStatic : Bool} {seen : List TypeId}
    (sweeping : catalogue.Sweeping chain seen [])
    (misses : ∀ id ∈ seen, ¬ catalogue.HasMethod selector wantStatic id)
    (holder : String) (limit : Nat) :
    ∃ result examined,
      Finds link (catalogue.Lists roster)
        (Errand.methodOfInterfaces selector wantStatic holder limit seen []) result examined ∧
      SweepEnds catalogue selector wantStatic chain s!"{selector.display} in {holder}" result ∧
      Examines catalogue chain seen examined := by
  refine ⟨.error (.failed (.noSuchMethod s!"{selector.display} in {holder}")), [], ?_,
    .missing fun id above => misses id (sweeping.mem_seen above), .nil ..⟩
  cases limit <;> exact .fail _

/-- A search among the interfaces that may take up enough of them finds the first one on the levels
with a method that fits, and looks at none that it has seen. -/
theorem finds_methodOfInterfaces
    (describes : link.Describes catalogue roster start)
    (listed : ∀ type ∈ chain, type ∈ roster) {selector : MethodSelector} {wantStatic : Bool}
    (splits : catalogue.Splits roster selector wantStatic)
    (holder : String) {limit : Nat} {seen pending : List TypeId}
    (sweeping : catalogue.Sweeping chain seen pending)
    (misses : ∀ id ∈ seen, ¬ catalogue.HasMethod selector wantStatic id)
    (enough : catalogue.backlog roster seen pending ≤ limit) :
    ∃ result examined,
      Finds link (catalogue.Lists roster)
        (Errand.methodOfInterfaces selector wantStatic holder limit seen pending) result examined ∧
      SweepEnds catalogue selector wantStatic chain s!"{selector.display} in {holder}" result ∧
      Examines catalogue chain seen examined := by
  induction limit generalizing seen pending with
  | zero =>
      cases pending with
      | nil => exact finds_methodOfInterfaces_nil sweeping misses holder 0
      | cons id pending =>
          rw [Catalogue.backlog, List.length_cons] at enough
          omega
  | succ limit ih =>
      cases pending with
      | nil => exact finds_methodOfInterfaces_nil sweeping misses holder (limit + 1)
      | cons id pending =>
          have above := sweeping.above id (.inr List.mem_cons_self)
          rw [Errand.methodOfInterfaces]
          split
          · next known =>
              apply ih (sweeping.drop known) misses
              rw [Catalogue.backlog, List.length_cons] at enough
              rw [Catalogue.backlog]
              omega
          · next fresh =>
              have member := above.mem_roster describes.closed listed
              have learns := describes.learns_above listed above
              rcases Catalogue.method?_cases splits member with
                ⟨method, here, first⟩ | ⟨here, missed⟩
              · rcases sweeping.first misses ⟨method, first.mem, first.holds⟩ with ⟨depth, nearest⟩
                refine ⟨.ok (.of id method), [id], .visit learns ?_, .found nearest first,
                  (Examines.nil ..).cons fresh above⟩
                rintro metadata ⟨-, methods⟩
                rw [TypeMetadata.method?_congr methods, here]
                exact .pure _
              · have misses' : ∀ other ∈ id :: seen,
                    ¬ catalogue.HasMethod selector wantStatic other :=
                  List.forall_mem_cons.2 ⟨missed, misses⟩
                have less := catalogue.backlog_expand pending member fresh
                rcases ih sweeping.expand misses' (by omega) with
                  ⟨result, examined, finds, ends, examines⟩
                refine ⟨result, id :: examined, .visit learns ?_, ends,
                  examines.cons fresh above⟩
                rintro metadata ⟨interfaces, methods⟩
                rw [TypeMetadata.method?_congr methods, here, interfaces]
                exact finds

/-- How the search for a method from a type on ends. -/
inductive MethodEnds
    (catalogue : Catalogue) (selector : MethodSelector) (wantStatic : Bool) (chain : List TypeId)
    (text : String) : Except Halt MethodRef → Prop where
  | declared
      {id : TypeId} {method : MethodInfo}
      (nearest : First (catalogue.HasMethod selector wantStatic) chain id)
      (first : First (IsMethod selector wantStatic) (catalogue id).methods method) :
      MethodEnds catalogue selector wantStatic chain text (.ok (.of id method))
  | swept
      {result : Except Halt MethodRef}
      (none : ∀ id ∈ chain, ¬ catalogue.HasMethod selector wantStatic id)
      (ends : SweepEnds catalogue selector wantStatic chain text result) :
      MethodEnds catalogue selector wantStatic chain text result

/-- The types that a search for a method from a type on looks at: those of the rest of a chain, at
least some of them, and if all of them then perhaps interfaces, each once. -/
def Visits (catalogue : Catalogue) (chain rest visited : List TypeId) : Prop :=
  ∃ walked examined, visited = walked ++ examined ∧ walked <+: rest ∧
    (examined ≠ [] → walked = rest) ∧ examined.Nodup ∧ ∀ id ∈ examined, catalogue.Above chain id

theorem Visits.singleton (catalogue : Catalogue) (chain rest : List TypeId) (id : TypeId) :
    Visits catalogue chain (id :: rest) [id] :=
  ⟨[id], [], rfl, by simp, fun some' => (some' rfl).elim, List.nodup_nil, by simp⟩

theorem Visits.cons
    {rest visited : List TypeId} (visits : Visits catalogue chain rest visited) (id : TypeId) :
    Visits catalogue chain (id :: rest) (id :: visited) := by
  rcases visits with ⟨walked, examined, rfl, climbs, all, once, above⟩
  exact ⟨id :: walked, examined, rfl, List.cons_prefix_cons.2 ⟨rfl, climbs⟩,
    fun some' => congrArg (List.cons id) (all some'), once, above⟩

/-- A method that the type itself declares is the nearest one. -/
theorem finds_methodFrom_of_found
    {type : TypeHandle} (meets : Meets link catalogue roster type)
    {selector : MethodSelector} {wantStatic : Bool} {method : MethodInfo}
    (here : (catalogue type.id).method? selector wantStatic = some (some method))
    (first : First (IsMethod selector wantStatic) (catalogue type.id).methods method)
    {before : List TypeId}
    (misses : ∀ type ∈ before, ¬ catalogue.HasMethod selector wantStatic type)
    (searchLimit limit : Nat) (above : List TypeId) (holder text : String)
    (interfaces : List TypeId) :
    ∃ result visited,
      Finds link (catalogue.Agrees roster)
        (Errand.methodFrom selector wantStatic searchLimit (limit + 1) holder interfaces type)
        result visited ∧
      MethodEnds catalogue selector wantStatic (before ++ type.id :: above) text result ∧
      Visits catalogue (before ++ type.id :: above) (type.id :: above) visited := by
  refine ⟨.ok (.of type.id method), [type.id], .visit meets ?_,
    .declared ⟨before, above, rfl, ⟨method, first.mem, first.holds⟩, misses⟩ first, .singleton ..⟩
  rintro metadata rfl
  rw [here]
  exact .pure _

theorem finds_methodFrom
    (describes : link.Describes catalogue roster start) {type : TypeHandle}
    {above : List TypeId} (lineage : catalogue.Lineage type.id above) {before : List TypeId}
    (listed : ∀ type ∈ before ++ above, type ∈ roster)
    (meets : Meets link catalogue roster type)
    {selector : MethodSelector} {wantStatic : Bool}
    (splits : catalogue.Splits roster selector wantStatic)
    (misses : ∀ type ∈ before, ¬ catalogue.HasMethod selector wantStatic type)
    {searchLimit limit : Nat} (enough : above.length ≤ limit)
    (wide : catalogue.backlog roster [] (catalogue.named (before ++ above)) ≤ searchLimit)
    (holder : String) :
    ∃ result visited,
      Finds link (catalogue.Agrees roster)
        (Errand.methodFrom selector wantStatic searchLimit limit holder (catalogue.named before)
          type) result visited ∧
      MethodEnds catalogue selector wantStatic (before ++ above)
        (catalogue.missingText selector.display above holder) result ∧
      Visits catalogue (before ++ above) above visited := by
  rcases lineage.exists_cons with ⟨later, rfl⟩
  induction limit generalizing before type later holder with
  | zero => cases enough
  | succ limit ih =>
      have member := listed type.id (List.mem_append_right _ List.mem_cons_self)
      rcases Catalogue.method?_cases splits member with ⟨method, here, first⟩ | ⟨here, missed⟩
      · exact finds_methodFrom_of_found meets here first misses _ _ _ _ _ _
      have missesAll := Catalogue.not_hasMethod_concat misses missed
      cases lineage with
      | root top =>
          rcases finds_methodOfInterfaces describes listed splits
              (Errand.startName holder (catalogue type.id)) (.start _ _) (by simp) wide with
            ⟨result, examined, finds, ends, once, new⟩
          refine ⟨result, type.id :: examined, .visit meets ?_, .swept missesAll ends,
            ⟨[type.id], examined, rfl, List.prefix_refl _, fun _ => rfl, once,
              fun other member => (new other member).2⟩⟩
          rintro metadata rfl
          rw [Catalogue.named_append, Catalogue.named_singleton] at finds
          rw [here]
          simp only [Errand.orAbort, pure_bind, top]
          exact finds.strengthen fun _ agrees => agrees.lists
      | @derived _ parent _ below lineage =>
          rcases lineage.exists_cons with ⟨later, rfl⟩
          rw [List.append_cons] at listed wide ⊢
          rcases ih (describes.learns_superclass member below) missesAll
              (Errand.startName holder (catalogue type.id)) later lineage listed
              (Nat.le_of_succ_le_succ enough) wide with
            ⟨result, visited, finds, ends, visits⟩
          refine ⟨result, type.id :: visited, .visit meets ?_, ends, visits.cons type.id⟩
          rintro metadata rfl
          have up : (catalogue type.id).superclass = some parent := below
          rw [Catalogue.named_append, Catalogue.named_singleton] at finds
          rw [here]
          simp only [Errand.orAbort, pure_bind, up]
          exact finds

/-! ## Searches from a type -/

/-- How the search for a field along the lineage of a type ends. -/
structure FieldSearch
    (catalogue : Catalogue) (chain : List TypeId) (name : String) (wantStatic : Option Bool)
    (result : Except Halt FieldRef) : Prop where
  /-- What is found is the first such field of the nearest type that has one. -/
  found : ∀ field, result = .ok field ↔
    ∃ id info, First (catalogue.HasField name wantStatic) chain id ∧
      First (IsField name wantStatic) (catalogue id).fields info ∧ field = .of id info
  /-- The field is missing if no type of the lineage has one. -/
  missing : (∃ text, result = .error (.failed (.noSuchField text))) ↔
    ∀ id ∈ chain, ¬ catalogue.HasField name wantStatic id
  /-- It is found or it is missing. -/
  ends : (∃ field, result = .ok field) ∨
    result = .error (.failed (.noSuchField (catalogue.missingText name chain "")))

/-- How the search for a method from a type on ends, and which types it looks at. -/
structure MethodSearch
    (catalogue : Catalogue) (chain : List TypeId) (selector : MethodSelector) (wantStatic : Bool)
    (result : Except Halt MethodRef) (visited : List TypeId) : Prop where
  /-- What is found is the first such method of the nearest type of the lineage that has one; if
  there is none, then of the first interface on the levels that has one. -/
  found : ∀ method, result = .ok method ↔
    (∃ id info, First (catalogue.HasMethod selector wantStatic) chain id ∧
      First (IsMethod selector wantStatic) (catalogue id).methods info ∧ method = .of id info) ∨
    (∀ id ∈ chain, ¬ catalogue.HasMethod selector wantStatic id) ∧
      ∃ depth id info,
        First (catalogue.HasMethod selector wantStatic) (catalogue.breadth chain depth) id ∧
        First (IsMethod selector wantStatic) (catalogue id).methods info ∧ method = .of id info
  /-- The method is missing if no type of the lineage has one and no interface above these. -/
  missing : (∃ text, result = .error (.failed (.noSuchMethod text))) ↔
    ∀ id, id ∈ chain ∨ catalogue.Above chain id → ¬ catalogue.HasMethod selector wantStatic id
  /-- It is found or it is missing. -/
  ends : (∃ method, result = .ok method) ∨
    result =
      .error (.failed (.noSuchMethod (catalogue.missingText selector.display chain "")))
  /-- Interfaces are looked at after the lineage, each once. -/
  once : Visits catalogue chain chain visited

theorem FieldEnds.fieldSearch
    {name : String} {wantStatic : Option Bool} {result : Except Halt FieldRef}
    (ends : FieldEnds catalogue name wantStatic chain
      (catalogue.missingText name chain "") result) :
    FieldSearch catalogue chain name wantStatic result := by
  cases ends with
  | @found id info nearest first =>
      refine ⟨?_, ?_, .inl ⟨_, rfl⟩⟩
      · intro field
        constructor
        · rintro ⟨⟩
          exact ⟨id, info, nearest, first, rfl⟩
        · rintro ⟨id', info', nearest', first', rfl⟩
          obtain rfl := nearest.unique nearest'
          rw [first.unique first']
      · refine iff_of_false ?_ fun none => none id nearest.mem nearest.holds
        rintro ⟨text, ⟨⟩⟩
  | missing none =>
      refine ⟨?_, iff_of_true ⟨_, rfl⟩ none, .inr rfl⟩
      intro field
      refine iff_of_false (by rintro ⟨⟩) ?_
      rintro ⟨id, info, nearest, -⟩
      exact none id nearest.mem nearest.holds

theorem MethodEnds.methodSearch
    {selector : MethodSelector} {wantStatic : Bool} {result : Except Halt MethodRef}
    {visited : List TypeId}
    (ends : MethodEnds catalogue selector wantStatic chain
      (catalogue.missingText selector.display chain "") result)
    (once : Visits catalogue chain chain visited) :
    MethodSearch catalogue chain selector wantStatic result visited := by
  cases ends with
  | @declared id info nearest first =>
      refine ⟨?_, ?_, .inl ⟨_, rfl⟩, once⟩
      · intro method
        constructor
        · rintro ⟨⟩
          exact .inl ⟨id, info, nearest, first, rfl⟩
        · rintro (⟨id', info', nearest', first', rfl⟩ | ⟨none, -⟩)
          · obtain rfl := nearest.unique nearest'
            rw [first.unique first']
          · exact (none id nearest.mem nearest.holds).elim
      · refine iff_of_false ?_ fun none => none id (.inl nearest.mem) nearest.holds
        rintro ⟨text, ⟨⟩⟩
  | swept none ends =>
      cases ends with
      | @found depth id info nearest first =>
          have above := Catalogue.above_of_mem_breadth nearest.mem
          refine ⟨?_, ?_, .inl ⟨_, rfl⟩, once⟩
          · intro method
            constructor
            · rintro ⟨⟩
              exact .inr ⟨none, depth, id, info, nearest, first, rfl⟩
            · rintro (⟨id', info', nearest', -⟩ | ⟨-, depth', id', info', nearest', first', rfl⟩)
              · exact (none id' nearest'.mem nearest'.holds).elim
              · obtain rfl := Catalogue.unique_of_first_breadth nearest nearest'
                rw [first.unique first']
          · refine iff_of_false ?_ fun none => none id (.inr above) nearest.holds
            rintro ⟨text, ⟨⟩⟩
      | missing noneAbove =>
          refine ⟨?_, iff_of_true ⟨_, rfl⟩ ?_, .inr rfl, once⟩
          · intro method
            refine iff_of_false (by rintro ⟨⟩) ?_
            rintro (⟨id, info, nearest, -⟩ | ⟨-, depth, id, info, nearest, -⟩)
            · exact none id nearest.mem nearest.holds
            · exact noneAbove id (Catalogue.above_of_mem_breadth nearest.mem) nearest.holds
          · rintro id (climbed | above)
            · exact none id climbed
            · exact noneAbove id above

/-- Whatever a consistent target was used for before, what is known of its types is what it says. -/
theorem agrees_after
    {declarations : Declarations} (declares : link.Declares declarations)
    (said : ∀ id ∈ roster, declarations.declared id = .ok (catalogue id))
    (usage : Usage) (operations : List Operation) (state : State) :
    catalogue.Agrees roster (link.after usage operations ⟨.empty, state⟩).types := by
  intro id listed metadata found
  have true := areTrue_after declares usage operations ⟨.empty, state⟩ declarations.areTrue_empty
  exact Except.ok.inj ((true id metadata found).symm.trans (said id listed))

/-- A search finds the nearest member, or says that there is none, and it comes to an end: with a
limit that is high enough, what is found does not depend on the limit, nor on what was known, as
long as this is what the target says.  A target that reports types as what it names them leaves
nothing else behind. -/
theorem nearest_members_are_found
    (describes : link.Describes catalogue roster start) :
    (∃ chain, catalogue.Lineage start.id chain ∧
      ∃ bound, ∀ limit, bound ≤ limit → ∀ known, catalogue.Agrees roster known.types →
        (∀ name wantStatic, FieldSearch catalogue chain name wantStatic
          (link.carryOut (Errand.findField limit start name wantStatic) known).1) ∧
        ∀ selector wantStatic, catalogue.Splits roster selector wantStatic →
          MethodSearch catalogue chain selector wantStatic
            (link.carryOut (Errand.findMethod limit start selector wantStatic) known).1
            (link.lookedUp (Errand.findMethod limit start selector wantStatic) known)) ∧
      catalogue.Agrees roster .empty ∧
      ∀ declarations, link.Declares declarations →
        (∀ id ∈ roster, declarations.declared id = .ok (catalogue id)) →
        ∀ usage operations state,
          catalogue.Agrees roster (link.after usage operations ⟨.empty, state⟩).types := by
  refine ⟨?searches, catalogue.agrees_empty roster, fun _ => agrees_after⟩
  case searches =>
    rcases describes.closed.exists_lineage describes.listed with ⟨chain, lineage⟩
    refine ⟨chain, lineage, chain.length + catalogue.backlog roster [] (catalogue.named chain), ?_⟩
    intro limit enough known agrees
    constructor
    · intro name wantStatic
      rcases finds_fieldFrom describes lineage describes.listed describes.learns_start name
          wantStatic (by omega : chain.length ≤ limit) "" with ⟨result, visited, finds, ends⟩
      rw [Errand.findField, (finds known agrees).1]
      exact ends.fieldSearch
    · intro selector wantStatic splits
      rcases finds_methodFrom describes lineage
          (lineage.mem_roster describes.closed describes.listed) describes.learns_start splits
          (by simp : ∀ type ∈ [], ¬ catalogue.HasMethod selector wantStatic type)
          (by omega : chain.length ≤ limit)
          (by rw [List.nil_append]; omega :
            catalogue.backlog roster [] (catalogue.named ([] ++ chain)) ≤ limit) "" with
        ⟨result, visited, finds, ends, visits⟩
      rcases finds known agrees with ⟨ended, looked⟩
      have same : Errand.findMethod limit start selector wantStatic =
          Errand.methodFrom selector wantStatic limit limit "" (catalogue.named []) start := rfl
      rw [same, ended, looked]
      exact ends.methodSearch visits

end

/-! ## A circle of interfaces -/

/-- A method that two interfaces pass on to each other. -/
def run : MethodInfo := ⟨3, "run", "()V", 1⟩

/-- A class with two interfaces that name each other; the second one declares the method. -/
def circle : Catalogue := fun id =>
  if id = 5 then ⟨"LTick;", some 6, [7, 8], [], []⟩
  else if id = 7 then ⟨"LLeft;", none, [8], [], []⟩
  else if id = 8 then ⟨"LRight;", none, [7], [], [run]⟩
  else ⟨Signature.objectClass, none, [], [], []⟩

def circleKind (id : TypeId) : UInt8 :=
  if id = 7 ∨ id = 8 then interfaceTag else classTag

theorem circle_extends {id parent : TypeId} (above : circle.Extends id parent) :
    id = 5 ∧ parent = 6 := by
  unfold Catalogue.Extends circle at above
  split_ifs at above with isTick
  cases above
  exact ⟨isTick, rfl⟩

theorem circle_names {id interface : TypeId} (names : circle.Names id interface) :
    interface = 7 ∨ interface = 8 := by
  unfold Catalogue.Names circle at names
  split_ifs at names <;> simp only [List.mem_cons, List.not_mem_nil, or_false] at names
  · exact names
  · exact .inr names
  · exact .inl names

theorem sendable_circle : circle.Sendable where
  signature id := by
    unfold circle
    split_ifs <;> decide
  superclass id parent above := by
    rw [(circle_extends above).2]
    decide
  fewInterfaces id := by
    unfold circle
    split_ifs <;> decide
  fewFields id := by
    unfold circle
    split_ifs <;> decide
  fields id := by
    unfold circle
    split_ifs <;> simp
  fewMethods id := by
    unfold circle
    split_ifs <;> decide
  methods id := by
    unfold circle
    split_ifs <;> decide

theorem orderly_circle : circle.Orderly circleKind where
  superclass id parent above := by
    rw [(circle_extends above).2]
    rfl
  interfaces id interface names := by
    rcases circle_names names with rfl | rfl <;> rfl

theorem closed_circle : circle.Closed {5, 6, 7, 8} where
  superclass id _ parent above := by
    rw [(circle_extends above).2]
    decide
  interfaces id _ interface names := by
    rcases circle_names names with rfl | rfl <;> decide
  acyclic id _ circular := by
    have only : ∀ last, Relation.TransGen circle.Extends id last → id = 5 ∧ last = 6 := by
      intro last reaches
      induction reaches with
      | single above => exact circle_extends above
      | tail _ above ih => exact ⟨ih.1, (circle_extends above).2⟩
    rcases only id circular with ⟨five, six⟩
    rw [five] at six
    exact absurd six (by decide)

theorem lineage_circle {chain : List TypeId} (lineage : circle.Lineage 5 chain) :
    chain = [5, 6] := by
  cases lineage with
  | root top => exact absurd top (by decide)
  | derived below lineage =>
      obtain rfl := (circle_extends below).2
      cases lineage with
      | root _ => rfl
      | derived below _ => exact absurd (circle_extends below).1 (by decide)

/-- The method with exactly one signature. -/
def exactly (name : String) : MethodSelector := ⟨name, some "()V", 0⟩

/-- The method is found in the second interface, whatever the target was used for and whatever the
limit is once it is high enough, and a method that no type declares is missing although the
interfaces lie in a circle. -/
theorem circle_is_searched :
    circle.target.Describes circle {5, 6, 7, 8} ⟨5, classTag⟩ ∧
      circle.target.Declares (circle.declarations circleKind) ∧
      (circle.Splits {5, 6, 7, 8} (exactly "run") false ∧
        circle.Splits {5, 6, 7, 8} (exactly "stop") false) ∧
      ∃ bound, ∀ limit, bound ≤ limit → ∀ usage operations,
        (circle.target.carryOut (Errand.findMethod limit ⟨5, classTag⟩ (exactly "run") false)
          (circle.target.after usage operations ⟨.empty, ()⟩)).1 = .ok (.of 8 run) ∧
        ∃ text, (circle.target.carryOut
          (Errand.findMethod limit ⟨5, classTag⟩ (exactly "stop") false)
          (circle.target.after usage operations ⟨.empty, ()⟩)).1 =
            .error (.failed (.noSuchMethod text)) := by
  have describes : circle.target.Describes circle {5, 6, 7, 8} ⟨5, classTag⟩ :=
    sendable_circle.describes closed_circle (by decide) fun other => (other rfl).elim
  have declares := sendable_circle.declares orderly_circle
  have splits : ∀ name, circle.Splits {5, 6, 7, 8} (exactly name) false := by
    rintro name id - method - - - ⟨⟩
  refine ⟨describes, declares, ⟨splits "run", splits "stop"⟩, ?_⟩
  rcases nearest_members_are_found describes with ⟨⟨chain, lineage, bound, searches⟩, -, keeps⟩
  obtain rfl := lineage_circle lineage
  refine ⟨bound, fun limit enough usage operations => ?_⟩
  have said : ∀ id ∈ ({5, 6, 7, 8} : Finset TypeId),
      (circle.declarations circleKind).declared id = .ok (circle id) := by
    refine fun id _ => Catalogue.declared_eq fun other => ?_
    by_cases beside : id = 7 ∨ id = 8
    · rcases beside with rfl | rfl <;> rfl
    · exact (other (if_neg beside)).elim
  rcases searches limit enough _ (keeps _ declares said usage operations ()) with ⟨-, methods⟩
  constructor
  · apply ((methods (exactly "run") false (splits "run")).found (.of 8 run)).2
    have climbed : ∀ id ∈ [5, 6], ¬ circle.HasMethod (exactly "run") false id :=
      List.forall_mem_cons.2 ⟨by decide, List.forall_mem_singleton.2 (by decide)⟩
    have nearest : First (circle.HasMethod (exactly "run") false) [7, 8] 8 :=
      ⟨[7], [], rfl, by decide, List.forall_mem_singleton.2 (by decide)⟩
    exact .inr ⟨climbed, 0, 8, run, nearest, .cons_self (by decide), rfl⟩
  · apply (methods (exactly "stop") false (splits "stop")).missing.2
    intro id _
    unfold Catalogue.HasMethod circle
    split_ifs <;> decide

/-! ## Searches that go astray -/

/-- A field, and a method whose first parameter starts as no type does. -/
def width : FieldInfo := ⟨2, "width", "I", 0⟩

def mangled : MethodInfo := ⟨3, "run", "(é)V", 0⟩

/-- A class that extends another one, which a third class names as its interface. -/
def tangle : Catalogue := fun id =>
  if id = 5 then ⟨"LTick;", some 7, [], [], []⟩
  else if id = 7 then ⟨"LLeft;", some 6, [], [], []⟩
  else if id = 9 then ⟨"LRight;", none, [7], [], []⟩
  else ⟨Signature.objectClass, none, [], [width], [mangled]⟩

theorem tangle_extends {id parent : TypeId} (above : tangle.Extends id parent) :
    id = 5 ∧ parent = 7 ∨ id = 7 ∧ parent = 6 := by
  unfold Catalogue.Extends tangle at above
  split_ifs at above with isTick isLeft
  · cases above
    exact .inl ⟨isTick, rfl⟩
  · cases above
    exact .inr ⟨isLeft, rfl⟩

theorem sendable_tangle : tangle.Sendable where
  signature id := by
    unfold tangle
    split_ifs <;> decide
  superclass id parent above := by
    rcases tangle_extends above with ⟨-, rfl⟩ | ⟨-, rfl⟩ <;> decide
  fewInterfaces id := by
    unfold tangle
    split_ifs <;> decide
  fewFields id := by
    unfold tangle
    split_ifs <;> decide
  fields id := by
    unfold tangle
    split_ifs <;> decide
  fewMethods id := by
    unfold tangle
    split_ifs <;> decide
  methods id := by
    unfold tangle
    split_ifs <;> decide

theorem closed_tangle : tangle.Closed {5, 6, 7, 9} where
  superclass id _ parent above := by
    rcases tangle_extends above with ⟨-, rfl⟩ | ⟨-, rfl⟩ <;> decide
  interfaces id _ interface names := by
    unfold Catalogue.Names tangle at names
    split_ifs at names <;> simp only [List.mem_cons, List.not_mem_nil, or_false] at names
    rw [names]
    decide
  acyclic id _ circular := by
    have smaller : ∀ last, Relation.TransGen tangle.Extends id last →
        id = 5 ∧ (last = 7 ∨ last = 6) ∨ id = 7 ∧ last = 6 := by
      intro last reaches
      induction reaches with
      | single above =>
          rcases tangle_extends above with ⟨rfl, rfl⟩ | ⟨rfl, rfl⟩
          · exact .inl ⟨rfl, .inl rfl⟩
          · exact .inr ⟨rfl, rfl⟩
      | tail _ above ih =>
          rcases ih with ⟨rfl, rfl | rfl⟩ | ⟨rfl, rfl⟩ <;>
            rcases tangle_extends above with ⟨same, rfl⟩ | ⟨same, rfl⟩ <;>
            first
              | exact .inl ⟨rfl, .inr rfl⟩
              | exact absurd same (by decide)
    rcases smaller id circular with ⟨rfl, same | same⟩ | ⟨rfl, same⟩ <;>
      exact absurd same (by decide)

/-- Two searches from the same class of a target that says the same of its types whenever it is
asked.  The nearest field is found at first, but not after another class was searched, and no limit
lets a search come to an end that has to count the parameters of the method. -/
theorem tangle_leads_astray :
    tangle.target.Describes tangle {5, 6, 7, 9} ⟨5, classTag⟩ ∧
      tangle.Lineage 5 [5, 7, 6] ∧
      First (tangle.HasField "width" none) [5, 7, 6] 6 ∧
      (tangle.target.carryOut (Errand.findField 10 ⟨5, classTag⟩ "width" none) ⟨.empty, ()⟩).1 =
        .ok (.of 6 width) ∧
      (tangle.target.carryOut (Errand.findField 10 ⟨5, classTag⟩ "width" none)
        (tangle.target.carryOut (Errand.findMethod 10 ⟨9, classTag⟩ (exactly "run") false)
          ⟨.empty, ()⟩).2).1 = .error (.failed (.noSuchField "width in Tick")) ∧
      ∀ limit, (tangle.target.carryOut
        (Errand.findMethod (limit + 3) ⟨5, classTag⟩ (.ofArity "run" 1) false) ⟨.empty, ()⟩).1 =
          .error .aborted := by
  refine ⟨sendable_tangle.describes closed_tangle (by decide) fun other => (other rfl).elim,
    .derived rfl (.derived rfl (.root rfl)), ?_, rfl, rfl, fun limit => rfl⟩
  refine ⟨[5, 7], [], rfl, ⟨width, .head _, rfl, .inl rfl⟩, ?_⟩
  intro id member
  rcases List.mem_cons.1 member with rfl | later
  · rintro ⟨field, ⟨⟩, -⟩
  · rw [List.mem_singleton.1 later]
    rintro ⟨field, ⟨⟩, -⟩

end FrameEval.Remote
