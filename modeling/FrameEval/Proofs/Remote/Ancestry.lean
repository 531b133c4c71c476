import FrameEval.Remote.TypeMetadata
import Mathlib.Algebra.BigOperators.Group.Finset.Basic
import Mathlib.Data.Set.Finite.Basic
import Mathlib.Logic.Relation

/-!
# Types and what lies above them

A catalogue says what each type declares.  The superclasses of a type form a chain, its lineage.
The interfaces of a chain of types have levels: those that the types name themselves, those that
these name, and so on; `breadth` lists them level by level.  Interfaces may be shared or lie in a
circle, and then they come again and again, on every further level.

A search keeps the interfaces that it has seen and those that are pending, and never looks at one
twice.  So its pending list is the rest of the list by levels `Thins`ned out: left out is what was
seen or comes before.  As nothing that was left out is new, the search meets new interfaces in the
order of the levels.
-/

namespace FrameEval

/-- The first of several things that fits. -/
def First {α : Type} (fits : α → Prop) (items : List α) (item : α) : Prop :=
  ∃ before after, items = before ++ item :: after ∧ fits item ∧ ∀ other ∈ before, ¬ fits other

namespace First

variable {α : Type} {fits : α → Prop} {items more : List α} {item other : α}

theorem iff_find? {holds : α → Bool} :
    First (fun item => holds item = true) items item ↔ items.find? holds = some item := by
  rw [List.find?_eq_some_iff_append]
  constructor
  · rintro ⟨before, after, rfl, fits, misses⟩
    exact ⟨fits, before, after, rfl, fun other member => by simpa using misses other member⟩
  · rintro ⟨fits, before, after, rfl, misses⟩
    exact ⟨before, after, rfl, fits, fun other member => by simpa using misses other member⟩

theorem unique (first : First fits items item) (second : First fits items other) :
    item = other := by
  classical
  rcases first with ⟨before, after, split, fitsItem, misses⟩
  rcases second with ⟨before', after', split', fitsOther, misses'⟩
  have found : items.find? (fun item => decide (fits item)) = some item :=
    iff_find?.1 ⟨before, after, split, by simpa using fitsItem, by simpa using misses⟩
  have found' : items.find? (fun item => decide (fits item)) = some other :=
    iff_find?.1 ⟨before', after', split', by simpa using fitsOther, by simpa using misses'⟩
  rw [found] at found'
  exact Option.some.inj found'

/-- What comes after the first one does not matter. -/
theorem extend (first : First fits items item) (prefixed : items <+: more) :
    First fits more item := by
  rcases first with ⟨before, after, rfl, fitsItem, misses⟩
  rcases prefixed with ⟨rest, rfl⟩
  exact ⟨before, after ++ rest, by simp, fitsItem, misses⟩

theorem mem (first : First fits items item) : item ∈ items := by
  rcases first with ⟨before, after, rfl, -, -⟩
  exact List.mem_append_right _ List.mem_cons_self

theorem holds (first : First fits items item) : fits item := by
  rcases first with ⟨-, -, -, fitsItem, -⟩
  exact fitsItem

theorem cons_self (fitsItem : fits item) : First fits (item :: items) item :=
  ⟨[], items, rfl, fitsItem, by simp⟩

theorem cons (misses : ¬ fits other) (first : First fits items item) :
    First fits (other :: items) item := by
  rcases first with ⟨before, after, rfl, fitsItem, missesBefore⟩
  refine ⟨other :: before, after, rfl, fitsItem, ?_⟩
  intro earlier member
  rcases List.mem_cons.1 member with rfl | later
  · exact misses
  · exact missesBefore earlier later

end First

namespace Remote

open Wire

/-- What each type declares. -/
abbrev Catalogue := TypeId → TypeMetadata

namespace Catalogue

variable {catalogue : Catalogue} {roster : Finset TypeId} {id interface parent : TypeId}
  {chain seen pending passed coming : List TypeId}

/-- A type has a superclass. -/
def Extends (catalogue : Catalogue) (id parent : TypeId) : Prop :=
  (catalogue id).superclass = some parent

/-- A type names an interface. -/
def Names (catalogue : Catalogue) (id interface : TypeId) : Prop :=
  interface ∈ (catalogue id).interfaces

/-- Finitely many types with all that lies above them, and no class above itself. -/
structure Closed (catalogue : Catalogue) (roster : Finset TypeId) : Prop where
  superclass : ∀ id ∈ roster, ∀ parent, catalogue.Extends id parent → parent ∈ roster
  interfaces : ∀ id ∈ roster, ∀ interface, catalogue.Names id interface → interface ∈ roster
  acyclic : ∀ id ∈ roster, ¬ Relation.TransGen catalogue.Extends id id

/-! ## Chains of superclasses -/

/-- A type, its superclass, and so on up to a type without one. -/
inductive Lineage (catalogue : Catalogue) : TypeId → List TypeId → Prop where
  | root {id : TypeId} (top : (catalogue id).superclass = none) : Lineage catalogue id [id]
  | derived
      {id parent : TypeId} {above : List TypeId}
      (below : catalogue.Extends id parent) (lineage : Lineage catalogue parent above) :
      Lineage catalogue id (id :: above)

theorem Lineage.exists_cons {chain : List TypeId} (lineage : catalogue.Lineage id chain) :
    ∃ above, chain = id :: above := by
  cases lineage with
  | root => exact ⟨[], rfl⟩
  | derived => exact ⟨_, rfl⟩

/-- Going up from a type of the roster comes to an end. -/
theorem Closed.exists_lineage
    (closed : catalogue.Closed roster) (listed : id ∈ roster) :
    ∃ chain, catalogue.Lineage id chain := by
  -- To be above is transitive and irreflexive on the roster, which is finite.
  let Over (first second : roster) : Prop :=
    Relation.TransGen catalogue.Extends second.1 first.1
  have : IsTrans roster Over := ⟨fun _ _ _ first second => second.trans first⟩
  have : Std.Irrefl Over := ⟨fun type => closed.acyclic type.1 type.2⟩
  have wellFounded : WellFounded Over := Finite.wellFounded_of_trans_of_irrefl Over
  have lineages : ∀ type : roster, ∃ chain, catalogue.Lineage type.1 chain := by
    intro type
    induction type using wellFounded.induction with
    | _ type ih =>
        cases above : (catalogue type.1).superclass with
        | none => exact ⟨[type.1], .root above⟩
        | some parent =>
            rcases ih ⟨parent, closed.superclass type.1 type.2 parent above⟩ (.single above) with
              ⟨chain, lineage⟩
            exact ⟨type.1 :: chain, .derived above lineage⟩
  exact lineages ⟨id, listed⟩

theorem Lineage.mem_roster
    (lineage : catalogue.Lineage id chain) (closed : catalogue.Closed roster)
    (listed : id ∈ roster) : ∀ type ∈ chain, type ∈ roster := by
  induction lineage with
  | root top =>
      intro type member
      rw [List.mem_singleton.1 member]
      exact listed
  | @derived id parent above below lineage ih =>
      intro type member
      rcases List.mem_cons.1 member with rfl | later
      · exact listed
      · exact ih (closed.superclass _ listed parent below) type later

/-! ## Levels of interfaces -/

/-- The interfaces that several types name, in order. -/
def named (catalogue : Catalogue) (types : List TypeId) : List TypeId :=
  types.flatMap fun id => (catalogue id).interfaces

@[simp]
theorem named_append (catalogue : Catalogue) (types more : List TypeId) :
    catalogue.named (types ++ more) = catalogue.named types ++ catalogue.named more :=
  List.flatMap_append

@[simp]
theorem named_singleton (catalogue : Catalogue) (id : TypeId) :
    catalogue.named [id] = (catalogue id).interfaces :=
  List.flatMap_singleton _ _

theorem mem_named_iff {types : List TypeId} :
    interface ∈ catalogue.named types ↔ ∃ id ∈ types, catalogue.Names id interface :=
  List.mem_flatMap

/-- The interfaces of the types of a chain on one level: those that the types name themselves,
those that these name, and so on. -/
def level (catalogue : Catalogue) (chain : List TypeId) : Nat → List TypeId
  | 0 => catalogue.named chain
  | depth + 1 => catalogue.named (catalogue.level chain depth)

/-- The interfaces of the types of a chain, breadth first, down to a level. -/
def breadth (catalogue : Catalogue) (chain : List TypeId) : Nat → List TypeId
  | 0 => catalogue.level chain 0
  | depth + 1 => catalogue.breadth chain depth ++ catalogue.level chain (depth + 1)

/-- Whether an interface belongs to some type of a chain, be it through other interfaces. -/
def Above (catalogue : Catalogue) (chain : List TypeId) (interface : TypeId) : Prop :=
  ∃ id ∈ chain, Relation.TransGen catalogue.Names id interface

theorem above_of_mem_named (member : interface ∈ catalogue.named chain) :
    catalogue.Above chain interface := by
  rcases mem_named_iff.1 member with ⟨id, listed, names⟩
  exact ⟨id, listed, .single names⟩

theorem Above.names
    (above : catalogue.Above chain id) (names : catalogue.Names id interface) :
    catalogue.Above chain interface := by
  rcases above with ⟨type, listed, reaches⟩
  exact ⟨type, listed, reaches.tail names⟩

theorem above_of_mem_level {depth : Nat} (member : interface ∈ catalogue.level chain depth) :
    catalogue.Above chain interface := by
  induction depth generalizing interface with
  | zero => exact above_of_mem_named member
  | succ depth ih =>
      rcases mem_named_iff.1 member with ⟨id, listed, names⟩
      exact (ih listed).names names

theorem above_of_mem_breadth {depth : Nat} (member : interface ∈ catalogue.breadth chain depth) :
    catalogue.Above chain interface := by
  induction depth with
  | zero => exact above_of_mem_level member
  | succ depth ih =>
      rcases List.mem_append.1 member with earlier | here
      · exact ih earlier
      · exact above_of_mem_level here

theorem Above.mem_roster
    (above : catalogue.Above chain interface) (closed : catalogue.Closed roster)
    (listed : ∀ type ∈ chain, type ∈ roster) : interface ∈ roster := by
  rcases above with ⟨type, member, reaches⟩
  induction reaches with
  | single names => exact closed.interfaces _ (listed type member) _ names
  | tail _ names ih => exact closed.interfaces _ ih _ names

theorem breadth_mono {depth deeper : Nat} (deep : depth ≤ deeper) :
    catalogue.breadth chain depth <+: catalogue.breadth chain deeper := by
  induction deep with
  | refl => exact List.prefix_refl _
  | step _ ih => exact ih.trans (List.prefix_append _ _)

/-- The first interface that fits is the same one however deep one looks. -/
theorem unique_of_first_breadth
    {fits : TypeId → Prop} {depth depth' : Nat} {other : TypeId}
    (first : First fits (catalogue.breadth chain depth) id)
    (second : First fits (catalogue.breadth chain depth') other) : id = other := by
  rcases Nat.le_total depth depth' with deep | deep
  · exact (first.extend (breadth_mono deep)).unique second
  · exact first.unique (second.extend (breadth_mono deep))

/-! ## Going through the levels -/

/-- The interfaces of a chain one after another, those that they name lined up at the end, however
often they come. -/
inductive Walk (catalogue : Catalogue) (chain : List TypeId) :
    List TypeId → List TypeId → Prop where
  | start : Walk catalogue chain [] (catalogue.named chain)
  | next
      {id : TypeId} {passed coming : List TypeId}
      (walk : Walk catalogue chain passed (id :: coming)) :
      Walk catalogue chain (passed ++ [id]) (coming ++ (catalogue id).interfaces)

namespace Walk

theorem advance {first rest : List TypeId} (walk : catalogue.Walk chain passed (first ++ rest)) :
    catalogue.Walk chain (passed ++ first) (rest ++ catalogue.named first) := by
  induction first generalizing passed rest with
  | nil => simpa [named] using walk
  | cons id first ih =>
      have onward : catalogue.Walk chain (passed ++ [id])
          (first ++ (rest ++ (catalogue id).interfaces)) := by
        simpa using walk.next
      simpa [named] using ih onward

/-- What was passed lies level by level, and so does what is coming. -/
theorem levels (walk : catalogue.Walk chain passed coming) :
    ∃ depth done left, catalogue.level chain depth = done ++ left ∧
      catalogue.breadth chain depth = passed ++ left ∧ coming = left ++ catalogue.named done := by
  induction walk with
  | start => exact ⟨0, [], catalogue.named chain, rfl, rfl, (List.append_nil _).symm⟩
  | @next id passed coming walk ih =>
      rcases ih with ⟨depth, done, left, here, before, lined⟩
      cases left with
      | cons other left =>
          obtain ⟨rfl, rfl⟩ := List.cons.inj lined
          exact ⟨depth, done ++ [id], left, by simp [here], by simp [before], by simp⟩
      | nil =>
          -- The level is used up, and what is coming is the next one.
          rw [List.append_nil] at here before
          have next : catalogue.level chain (depth + 1) = id :: coming := by
            rw [level, here]
            exact lined.symm
          refine ⟨depth + 1, [id], coming, next, ?_, by simp⟩
          rw [breadth, before, next, List.append_assoc]
          rfl

theorem prefix_breadth (walk : catalogue.Walk chain passed coming) :
    ∃ depth, passed <+: catalogue.breadth chain depth := by
  rcases walk.levels with ⟨depth, done, left, -, before, -⟩
  exact ⟨depth, left, before.symm⟩

end Walk

/-! ## Going through them once -/

/-- The first list is the second one, some of what was seen or comes before left out. -/
inductive Thins : List TypeId → List TypeId → List TypeId → Prop where
  | nil {seen : List TypeId} : Thins seen [] []
  | keep
      {id : TypeId} {seen pending coming : List TypeId} (rest : Thins (id :: seen) pending coming) :
      Thins seen (id :: pending) (id :: coming)
  | drop
      {id : TypeId} {seen pending coming : List TypeId} (known : id ∈ seen)
      (rest : Thins seen pending coming) :
      Thins seen pending (id :: coming)

namespace Thins

theorem mono
    (thins : Thins seen pending coming) {wider : List TypeId} (holds : seen ⊆ wider) :
    Thins wider pending coming := by
  induction thins generalizing wider with
  | nil => exact .nil
  | keep _ ih => exact .keep (ih (List.cons_subset_cons _ holds))
  | drop known _ ih => exact .drop (holds known) (ih holds)

theorem refl (seen pending : List TypeId) : Thins seen pending pending := by
  induction pending generalizing seen with
  | nil => exact .nil
  | cons id pending ih => exact .keep (ih (id :: seen))

theorem append (thins : Thins seen pending coming) (more : List TypeId) :
    Thins seen (pending ++ more) (coming ++ more) := by
  induction thins with
  | nil => exact refl _ more
  | keep _ ih => exact .keep ih
  | drop known _ ih => exact .drop known ih

/-- What is known or pending need not be lined up again. -/
theorem append_known
    (thins : Thins seen pending coming) {more : List TypeId}
    (known : ∀ id ∈ more, id ∈ seen ∨ id ∈ pending) : Thins seen pending (coming ++ more) := by
  induction thins with
  | nil =>
      induction more with
      | nil => exact .nil
      | cons id more ih =>
          have seenBefore := (known id List.mem_cons_self).resolve_right List.not_mem_nil
          exact .drop seenBefore
            (ih fun other member => known other (List.mem_cons_of_mem _ member))
  | keep _ ih =>
      refine .keep (ih fun other member => ?_)
      rcases known other member with before | waits
      · exact .inl (List.mem_cons_of_mem _ before)
      · rcases List.mem_cons.1 waits with rfl | later
        · exact .inl List.mem_cons_self
        · exact .inr later
  | drop known' _ ih => exact .drop known' (ih known)

theorem mem_seen (thins : Thins seen [] coming) : ∀ id ∈ coming, id ∈ seen := by
  induction coming with
  | nil => simp
  | cons id coming ih =>
      cases thins with
      | drop known rest =>
          intro other member
          rcases List.mem_cons.1 member with rfl | later
          · exact known
          · exact ih rest other later

/-- Only what was seen comes before what is pending first. -/
theorem split
    (thins : Thins seen (id :: pending) coming) :
    ∃ dropped rest, coming = dropped ++ id :: rest ∧ (∀ other ∈ dropped, other ∈ seen) ∧
      Thins (id :: seen) pending rest := by
  induction coming with
  | nil => cases thins
  | cons other coming ih =>
      cases thins with
      | keep rest => exact ⟨[], coming, rfl, by simp, rest⟩
      | drop known rest =>
          rcases ih rest with ⟨dropped, left, rfl, seenBefore, thins⟩
          refine ⟨other :: dropped, left, rfl, ?_, thins⟩
          intro earlier member
          rcases List.mem_cons.1 member with rfl | later
          · exact known
          · exact seenBefore earlier later

end Thins

/-- How the seen and the pending interfaces of a search stand to the levels. -/
structure Sweeping (catalogue : Catalogue) (chain seen pending : List TypeId) : Prop where
  order : ∃ passed coming, catalogue.Walk chain passed coming ∧ (∀ id ∈ passed, id ∈ seen) ∧
    Thins seen pending coming
  above : ∀ id, id ∈ seen ∨ id ∈ pending → catalogue.Above chain id
  closed : ∀ id ∈ seen, ∀ interface, catalogue.Names id interface →
    interface ∈ seen ∨ interface ∈ pending
  begun : ∀ id ∈ catalogue.named chain, id ∈ seen ∨ id ∈ pending

namespace Sweeping

theorem start (catalogue : Catalogue) (chain : List TypeId) :
    catalogue.Sweeping chain [] (catalogue.named chain) where
  order := ⟨[], catalogue.named chain, .start, by simp, .refl _ _⟩
  above id noted := above_of_mem_named (noted.resolve_left List.not_mem_nil)
  closed id member := by cases member
  begun id member := .inr member

/-- What is pending first comes next, after nothing but what was seen. -/
theorem coming_next (sweeping : catalogue.Sweeping chain seen (id :: pending)) :
    ∃ passed rest, catalogue.Walk chain passed (id :: rest) ∧ (∀ other ∈ passed, other ∈ seen) ∧
      Thins (id :: seen) pending rest := by
  rcases sweeping.order with ⟨passed, coming, walk, seenBefore, thins⟩
  rcases thins.split with ⟨dropped, rest, rfl, seenToo, thins⟩
  refine ⟨passed ++ dropped, rest ++ catalogue.named dropped, walk.advance, ?_, ?_⟩
  · intro other member
    rcases List.mem_append.1 member with earlier | later
    · exact seenBefore other earlier
    · exact seenToo other later
  · apply thins.append_known
    intro interface member
    rcases mem_named_iff.1 member with ⟨type, listed, names⟩
    rcases sweeping.closed type (seenToo type listed) interface names with before | waits
    · exact .inl (List.mem_cons_of_mem _ before)
    · rcases List.mem_cons.1 waits with rfl | later
      · exact .inl List.mem_cons_self
      · exact .inr later

/-- A new interface that fits is the first one on the levels if none was seen that does. -/
theorem first
    (sweeping : catalogue.Sweeping chain seen (id :: pending)) {fits : TypeId → Prop}
    (misses : ∀ other ∈ seen, ¬ fits other) (fitsId : fits id) :
    ∃ depth, First fits (catalogue.breadth chain depth) id := by
  rcases sweeping.coming_next with ⟨passed, rest, walk, seenBefore, -⟩
  rcases walk.next.prefix_breadth with ⟨depth, prefixed⟩
  refine ⟨depth, First.extend ?_ prefixed⟩
  exact ⟨passed, [], rfl, fitsId, fun other member => misses other (seenBefore other member)⟩

/-- A pending interface that was seen is not needed to note it. -/
theorem noted_drop
    {other : TypeId} (known : id ∈ seen) (noted : other ∈ seen ∨ other ∈ id :: pending) :
    other ∈ seen ∨ other ∈ pending := by
  rcases noted with done | waits
  · exact .inl done
  · rcases List.mem_cons.1 waits with rfl | later
    · exact .inl known
    · exact .inr later

/-- An interface that was seen already may be dropped. -/
theorem drop
    (sweeping : catalogue.Sweeping chain seen (id :: pending)) (known : id ∈ seen) :
    catalogue.Sweeping chain seen pending where
  order := by
    rcases sweeping.coming_next with ⟨passed, rest, walk, seenBefore, thins⟩
    refine ⟨passed ++ [id], rest ++ (catalogue id).interfaces, walk.next, ?_, ?_⟩
    · intro other member
      rcases List.mem_append.1 member with earlier | now
      · exact seenBefore other earlier
      · rw [List.mem_singleton.1 now]
        exact known
    · apply (thins.mono (List.cons_subset.2 ⟨known, List.Subset.refl seen⟩)).append_known
      intro interface names
      exact noted_drop known (sweeping.closed id known interface names)
  above other noted := sweeping.above other (noted.imp_right (List.mem_cons_of_mem id))
  closed other member interface names :=
    noted_drop known (sweeping.closed other member interface names)
  begun other member := noted_drop known (sweeping.begun other member)

/-- An interface that goes from the pending to the seen ones stays noted. -/
theorem noted_expand
    {other : TypeId} (more : List TypeId) (noted : other ∈ seen ∨ other ∈ id :: pending) :
    other ∈ id :: seen ∨ other ∈ pending ++ more := by
  rcases noted with done | waits
  · exact .inl (List.mem_cons_of_mem id done)
  · rcases List.mem_cons.1 waits with rfl | later
    · exact .inl List.mem_cons_self
    · exact .inr (List.mem_append_left more later)

/-- The interfaces that a new one names are lined up at the end. -/
theorem expand
    (sweeping : catalogue.Sweeping chain seen (id :: pending)) :
    catalogue.Sweeping chain (id :: seen) (pending ++ (catalogue id).interfaces) where
  order := by
    rcases sweeping.coming_next with ⟨passed, rest, walk, seenBefore, thins⟩
    refine ⟨passed ++ [id], rest ++ (catalogue id).interfaces, walk.next, ?_, thins.append _⟩
    intro other member
    rcases List.mem_append.1 member with earlier | now
    · exact List.mem_cons_of_mem id (seenBefore other earlier)
    · rw [List.mem_singleton.1 now]
      exact List.mem_cons_self
  above other noted := by
    have aboveId := sweeping.above id (.inr List.mem_cons_self)
    rcases noted with done | waits
    · rcases List.mem_cons.1 done with rfl | earlier
      · exact aboveId
      · exact sweeping.above other (.inl earlier)
    · rcases List.mem_append.1 waits with later | new
      · exact sweeping.above other (.inr (List.mem_cons_of_mem id later))
      · exact aboveId.names new
  closed other member interface names := by
    rcases List.mem_cons.1 member with rfl | earlier
    · exact .inr (List.mem_append_right pending names)
    · exact noted_expand _ (sweeping.closed other earlier interface names)
  begun other member := noted_expand _ (sweeping.begun other member)

/-- With nothing pending every interface was seen. -/
theorem mem_seen
    (sweeping : catalogue.Sweeping chain seen []) (above : catalogue.Above chain interface) :
    interface ∈ seen := by
  rcases above with ⟨type, listed, reaches⟩
  induction reaches with
  | single names =>
      exact (sweeping.begun _ (mem_named_iff.2 ⟨type, listed, names⟩)).resolve_right
        List.not_mem_nil
  | tail _ names ih => exact (sweeping.closed _ ih _ names).resolve_right List.not_mem_nil

end Sweeping

/-- How many pending interfaces a search may still take up: those that are pending, and those that
the types name that were not seen. -/
def backlog
    (catalogue : Catalogue) (roster : Finset TypeId) (seen pending : List TypeId) : Nat :=
  pending.length + ∑ id ∈ roster with id ∉ seen, (catalogue id).interfaces.length

theorem backlog_expand
    (catalogue : Catalogue) {roster : Finset TypeId} (pending : List TypeId)
    (listed : id ∈ roster) (fresh : id ∉ seen) :
    catalogue.backlog roster (id :: seen) (pending ++ (catalogue id).interfaces) + 1 =
      catalogue.backlog roster seen (id :: pending) := by
  have rest : roster.filter (· ∉ id :: seen) = (roster.filter (· ∉ seen)).erase id := by
    ext other
    simp only [Finset.mem_filter, Finset.mem_erase, List.mem_cons]
    tauto
  have split := Finset.add_sum_erase (roster.filter (· ∉ seen))
    (fun id => (catalogue id).interfaces.length) (Finset.mem_filter.2 ⟨listed, fresh⟩)
  simp only [backlog, rest, List.length_append, List.length_cons]
  omega

end Catalogue

end Remote

end FrameEval
