import FrameEval.Member

/-!
# Searches that may break off

A search goes through a list until an item passes a test, and it breaks off where the test has no
answer.  What stands behind the item where it ends does not matter, and as long as every test has
an answer it is an ordinary search.
-/

namespace FrameEval

variable {α β : Type}

/-- The first item decides, unless it fails the test. -/
theorem findM?_cons (test : α → Option Bool) (item : α) (rest : List α) :
    (item :: rest).findM? test =
      (test item).bind fun fits => if fits then some (some item) else rest.findM? test := by
  rw [List.findM?]
  cases test item with
  | none => rfl
  | some fits => cases fits <;> rfl

/-- A search of two lists is one of the first and, unless that ends it, one of the second. -/
theorem findM?_append (test : α → Option Bool) (items others : List α) :
    (items ++ others).findM? test =
      (items.findM? test).bind fun found =>
        match found with
        | some item => some (some item)
        | none => others.findM? test := by
  induction items with
  | nil => rfl
  | cons item rest ih =>
      rw [List.cons_append, findM?_cons, findM?_cons, ih]
      cases test item with
      | none => rfl
      | some fits => cases fits <;> rfl

theorem findM?_map (test : β → Option Bool) (pack : α → β) (items : List α) :
    (items.map pack).findM? test =
      (items.findM? fun item => test (pack item)).map (Option.map pack) := by
  induction items with
  | nil => rfl
  | cons item rest ih =>
      rw [List.map_cons, findM?_cons, findM?_cons, ih]
      cases test (pack item) with
      | none => rfl
      | some fits => cases fits <;> rfl

theorem findM?_congr
    {test other : α → Option Bool} {items : List α}
    (same : ∀ item ∈ items, test item = other item) :
    items.findM? test = items.findM? other := by
  induction items with
  | nil => rfl
  | cons item rest ih =>
      rw [findM?_cons, findM?_cons, same item List.mem_cons_self,
        ih fun later member => same later (List.mem_cons_of_mem item member)]

/-- Where every test has an answer the search does not break off. -/
theorem findM?_of_isSome
    {test : α → Option Bool} {items : List α} (answers : ∀ item ∈ items, (test item).isSome) :
    items.findM? test = some (items.find? fun item => test item = some true) := by
  induction items with
  | nil => rfl
  | cons item rest ih =>
      have later := ih fun other member => answers other (List.mem_cons_of_mem item member)
      rcases Option.isSome_iff_exists.1 (answers item List.mem_cons_self) with ⟨fits, answer⟩
      rw [findM?_cons, List.find?_cons, later, answer]
      cases fits <;> rfl

namespace MethodSelector

/-- If a method is of the wanted name and sort, and the selector counts, its parameters can be
split. -/
def Splits (selector : MethodSelector) (wantStatic : Bool) (name signature : String)
    (isStatic : Bool) : Prop :=
  name = selector.name → isStatic = wantStatic → selector.signature = none →
    (Signature.parameters? signature).isSome

/-- A method is then selected or it is not. -/
theorem isSome_selectsAmong?
    {selector : MethodSelector} {wantStatic : Bool} {name signature : String} {isStatic : Bool}
    (splits : selector.Splits wantStatic name signature isStatic) :
    (selector.selectsAmong? wantStatic name signature isStatic).isSome := by
  rw [selectsAmong?]
  by_cases wanted : isStatic = wantStatic
  · rw [if_pos wanted, selects?]
    by_cases named : name = selector.name
    · rw [if_pos named]
      cases exactly : selector.signature with
      | some signature => rfl
      | none =>
          rw [Option.isSome_map, Signature.arity?, Option.isSome_map]
          exact splits named wanted exactly
    · rw [if_neg named]
      rfl
  · rw [if_neg wanted]
    rfl

end MethodSelector

end FrameEval
