import FrameEval.Evaluation.Assignable
import FrameEval.Proofs.Evaluation.Triple
import Mathlib.Algebra.BigOperators.Group.Finset.Basic
import Mathlib.Data.Set.Finite.Basic
import Mathlib.Logic.Relation

/-!
# The search of a type hierarchy

A target that tells the same supertypes of a type whenever it is asked has a hierarchy.  The
search keeps the types that it has still to look at and those whose supertypes it was told.
`Searching` says how the two lists stand to the hierarchy: whatever lies above the source lies
above a pending type or was seen.  When nothing is pending the seen types are closed under
supertypes, so a target that was not met does not lie above the source.

A type may be pending several times, so neither list bounds the search alone.  `effort` does:
a type that is looked at is pending once less, and if it is new its supertypes become pending
but will not do so again.
-/

namespace FrameEval

/-- The direct supertypes of each type. -/
abbrev Hierarchy := String → List String

namespace Hierarchy

/-- A type is another one or lies above it. -/
def Ascends (hierarchy : Hierarchy) : String → String → Prop :=
  Relation.ReflTransGen fun type parent => parent ∈ hierarchy type

variable {hierarchy : Hierarchy}

theorem Ascends.parent
    {source type parent : String}
    (ascends : hierarchy.Ascends source type) (direct : parent ∈ hierarchy type) :
    hierarchy.Ascends source parent :=
  Relation.ReflTransGen.tail ascends direct

/-- Types that are closed under supertypes hold everything above each of them. -/
theorem Ascends.mem_of_closed
    {source type : String} (ascends : hierarchy.Ascends source type) (types : Set String)
    (closed : ∀ type ∈ types, ∀ parent ∈ hierarchy type, parent ∈ types)
    (start : source ∈ types) :
    type ∈ types := by
  induction ascends with
  | refl => exact start
  | tail _ direct ih => exact closed _ ih _ direct

end Hierarchy

namespace Evaluation

open Dialogue

/-- The types whose supertypes a record asks for. -/
def askedTypes (record : Record) : List String :=
  record.filterMap fun exchange =>
    match exchange.1 with
    | .operation (.supertypes type) => some type
    | _ => none

@[simp]
theorem askedTypes_append
    (record more : Record) :
    askedTypes (record ++ more) = askedTypes record ++ askedTypes more :=
  List.filterMap_append

@[simp]
theorem askedTypes_success
    (type : String) (parents : List String) :
    askedTypes [success (.supertypes type) parents] = [type] := rfl

/-- Whenever a record tells the supertypes of a type, they are those of a hierarchy. -/
def Tells (record : Record) (hierarchy : Hierarchy) : Prop :=
  ∀ type parents, success (.supertypes type) parents ∈ record → parents = hierarchy type

theorem Tells.of_append
    {record more : Record} {hierarchy : Hierarchy}
    (tells : Tells (record ++ more) hierarchy) :
    Tells record hierarchy :=
  fun type parents member => tells type parents (List.mem_append_left more member)

theorem Tells.last
    {record : Record} {hierarchy : Hierarchy} {type : String} {parents : List String}
    (tells : Tells (record ++ [success (.supertypes type) parents]) hierarchy) :
    parents = hierarchy type :=
  tells type parents (by simp)

/--
A search above a source asks only for the supertypes of types above it, for those of each type
once, and stops early only when the target fails to tell them.
-/
def searchRule (hierarchy : Hierarchy) (source : String) : Rule where
  asks record inquiry := Tells record hierarchy →
    ∃ type, inquiry = .operation (.supertypes type) ∧ hierarchy.Ascends source type ∧
      type ∉ askedTypes record
  stops record halt := Tells record hierarchy →
    ∃ earlier type, record = earlier ++ [failure (.supertypes type) halt] ∧
      hierarchy.Ascends source type

/-- How the pending and the seen types of a search stand to a hierarchy. -/
structure Searching (hierarchy : Hierarchy) (source target : String)
    (pending seen : List String) (record : Record) : Prop where
  above : ∀ type ∈ pending, hierarchy.Ascends source type
  asked : ∀ type ∈ askedTypes record, type ∈ seen
  missed : target ∉ seen
  closed : ∀ type ∈ seen, ∀ parent ∈ hierarchy type, parent ∈ pending ∨ parent ∈ seen
  begun : source ∈ pending ∨ source ∈ seen

namespace Searching

variable {hierarchy : Hierarchy} {source target type : String} {pending seen : List String}
  {record : Record}

theorem start (hierarchy : Hierarchy) (source target : String) :
    Searching hierarchy source target [source] [] [] where
  above type member := by
    rw [List.mem_singleton.1 member]
    exact Relation.ReflTransGen.refl
  asked type member := by cases member
  missed := List.not_mem_nil
  closed type member := by cases member
  begun := .inl List.mem_cons_self

/-- A pending type that was seen is not needed to note it. -/
theorem noted_drop
    {other : String} (known : type ∈ seen) (noted : other ∈ type :: pending ∨ other ∈ seen) :
    other ∈ pending ∨ other ∈ seen := by
  rcases noted with waits | done
  · rcases List.mem_cons.1 waits with rfl | later
    · exact .inr known
    · exact .inl later
  · exact .inr done

/-- A type that goes from the pending to the seen ones stays noted. -/
theorem noted_expand
    {other : String} (more : List String) (noted : other ∈ type :: pending ∨ other ∈ seen) :
    other ∈ more ++ pending ∨ other ∈ type :: seen := by
  rcases noted with waits | done
  · rcases List.mem_cons.1 waits with rfl | later
    · exact .inr List.mem_cons_self
    · exact .inl (List.mem_append_right more later)
  · exact .inr (List.mem_cons_of_mem type done)

/-- A type that was seen already may be dropped. -/
theorem drop
    (searching : Searching hierarchy source target (type :: pending) seen record)
    (known : type ∈ seen) :
    Searching hierarchy source target pending seen record where
  above other member := searching.above other (List.mem_cons_of_mem type member)
  asked := searching.asked
  missed := searching.missed
  closed other member parent direct :=
    noted_drop known (searching.closed other member parent direct)
  begun := noted_drop known searching.begun

/-- The supertypes of a type take its place. -/
theorem expand
    (searching : Searching hierarchy source target (type :: pending) seen record)
    (other : type ≠ target) :
    Searching hierarchy source target ((hierarchy type).reverse ++ pending) (type :: seen)
      (record ++ [success (.supertypes type) (hierarchy type)]) where
  above parent member := by
    rcases List.mem_append.1 member with direct | waits
    · exact (searching.above type List.mem_cons_self).parent (List.mem_reverse.1 direct)
    · exact searching.above parent (List.mem_cons_of_mem type waits)
  asked asked member := by
    rw [askedTypes_append, askedTypes_success] at member
    rcases List.mem_append.1 member with earlier | now
    · exact List.mem_cons_of_mem type (searching.asked asked earlier)
    · rw [List.mem_singleton.1 now]
      exact List.mem_cons_self
  missed member := by
    rcases List.mem_cons.1 member with same | earlier
    · exact other same.symm
    · exact searching.missed earlier
  closed child member parent direct := by
    rcases List.mem_cons.1 member with rfl | earlier
    · exact .inl (List.mem_append_left pending (List.mem_reverse.2 direct))
    · exact noted_expand _ (searching.closed child earlier parent direct)
  begun := noted_expand _ searching.begun

/-- With nothing pending, a target that was not met does not lie above the source. -/
theorem not_ascends
    (searching : Searching hierarchy source target [] seen record) :
    ¬ hierarchy.Ascends source target := by
  intro ascends
  refine searching.missed (ascends.mem_of_closed {type | type ∈ seen} ?_ ?_)
  · intro type member parent direct
    exact (searching.closed type member parent direct).resolve_left List.not_mem_nil
  · exact searching.begun.resolve_left List.not_mem_nil

end Searching

/-- How many types a search may still look at: those that are pending, and the supertypes of
those that were not seen. -/
def effort (hierarchy : Hierarchy) (roster : Finset String) (pending seen : List String) : Nat :=
  pending.length + ∑ type ∈ roster with type ∉ seen, (hierarchy type).length

theorem effort_expand
    (hierarchy : Hierarchy) {roster : Finset String} {type : String} {seen : List String}
    (pending : List String) (listed : type ∈ roster) (fresh : type ∉ seen) :
    effort hierarchy roster ((hierarchy type).reverse ++ pending) (type :: seen) + 1 =
      effort hierarchy roster (type :: pending) seen := by
  have rest : roster.filter (· ∉ type :: seen) = (roster.filter (· ∉ seen)).erase type := by
    ext other
    simp only [Finset.mem_filter, Finset.mem_erase, List.mem_cons]
    tauto
  have split := Finset.add_sum_erase (roster.filter (· ∉ seen))
    (fun type => (hierarchy type).length) (Finset.mem_filter.2 ⟨listed, fresh⟩)
  simp only [effort, rest, List.length_append, List.length_reverse, List.length_cons]
  omega

/-- A search that may look at enough types decides whether its target lies above its source. -/
theorem reaches_triple
    {hierarchy : Hierarchy} {source : String} (target : String) {roster : Finset String}
    (complete : ∀ type, hierarchy.Ascends source type → type ∈ roster)
    (limit : Nat) (pending seen : List String) :
    Triple (searchRule hierarchy source)
      (fun record _ => Tells record hierarchy →
        Searching hierarchy source target pending seen record ∧
          effort hierarchy roster pending seen ≤ limit)
      (reaches target limit pending seen)
      fun record found _ => Tells record hierarchy →
        (found = true ↔ hierarchy.Ascends source target) := by
  induction limit generalizing pending seen with
  | zero =>
      cases pending with
      | nil =>
          refine .pure fun record _ known tells => ?_
          simpa using (known tells).1.not_ascends
      | cons type pending =>
          refine .exhaust fun record _ known tells => ?_
          have enough := (known tells).2
          rw [effort, List.length_cons] at enough
          omega
  | succ limit ih =>
      cases pending with
      | nil =>
          refine .pure fun record _ known tells => ?_
          simpa using (known tells).1.not_ascends
      | cons type pending =>
          rw [reaches]
          split
          · next met =>
              refine .pure fun record _ known tells => ?_
              have above := (known tells).1.above type List.mem_cons_self
              rw [met] at above
              simpa using above
          · next other =>
              split
              · next seenBefore =>
                  refine (ih pending seen).strengthenPre fun record _ known tells => ?_
                  rcases known tells with ⟨searching, enough⟩
                  refine ⟨searching.drop seenBefore, ?_⟩
                  rw [effort, List.length_cons] at enough
                  rw [effort]
                  omega
              · next fresh =>
                  refine Triple.bind ?_ fun parents => ih (parents.reverse ++ pending) (type :: seen)
                  refine .perform fun record _ known => ⟨?_, ?_, ?_⟩
                  · intro tells
                    have searching := (known tells).1
                    exact ⟨type, rfl, searching.above type List.mem_cons_self,
                      fun again => fresh (searching.asked type again)⟩
                  · intro parents tells
                    obtain rfl := tells.last
                    rcases known tells.of_append with ⟨searching, enough⟩
                    have listed := complete type (searching.above type List.mem_cons_self)
                    have less := effort_expand hierarchy pending listed fresh
                    exact ⟨searching.expand other, by omega⟩
                  · intro halt tells
                    have searching := (known tells.of_append).1
                    exact ⟨record, type, rfl, searching.above type List.mem_cons_self⟩

end Evaluation

end FrameEval
