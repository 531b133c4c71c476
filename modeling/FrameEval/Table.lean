/-!
# Finite tables

A table binds finitely many keys, each at most once, and remembers the order in
which the keys first arrived.  The invariant that no key occurs twice is part of
the type, so the number of bindings is the number of keys.

Every operation is described by its effect on `find?`; nothing else about the
representation is used elsewhere.
-/

namespace FrameEval

/-- Finitely many bindings in order of first arrival, one for each key. -/
structure Table (Key Value : Type) where
  /-- The bindings, the oldest key first. -/
  bindings : List (Key × Value)
  /-- No key is bound twice. -/
  distinct : (bindings.map Prod.fst).Nodup

namespace Table

variable {Key Value : Type}

/-- The table without bindings. -/
def empty : Table Key Value where
  bindings := []
  distinct := List.nodup_nil

instance : Inhabited (Table Key Value) := ⟨empty⟩

instance : EmptyCollection (Table Key Value) := ⟨empty⟩

/-- The bound keys, the oldest first. -/
def keys (table : Table Key Value) : List Key :=
  table.bindings.map Prod.fst

/-- The bound values in the order of their keys. -/
def values (table : Table Key Value) : List Value :=
  table.bindings.map Prod.snd

/-- The number of bound keys. -/
def size (table : Table Key Value) : Nat :=
  table.bindings.length

variable [DecidableEq Key]

/-- The value bound to a key. -/
def find? (table : Table Key Value) (key : Key) : Option Value :=
  (table.bindings.find? fun binding => binding.1 = key).map Prod.snd

/-- Whether a key is bound. -/
def contains (table : Table Key Value) (key : Key) : Bool :=
  (table.find? key).isSome

/-- Rebind a key in place, without adding one. -/
def rebind (key : Key) (value : Value) :
    List (Key × Value) → List (Key × Value) :=
  List.map fun binding => if binding.1 = key then (key, value) else binding

theorem map_fst_rebind (key : Key) (value : Value)
    (bindings : List (Key × Value)) :
    (rebind key value bindings).map Prod.fst = bindings.map Prod.fst := by
  induction bindings with
  | nil => rfl
  | cons first rest ih =>
    by_cases same : first.1 = key
    · simp_all [rebind]
    · simp_all [rebind]

/-- Bind a key, in its old place when it was bound before and last otherwise. -/
def insert (table : Table Key Value) (key : Key) (value : Value) :
    Table Key Value :=
  if bound : key ∈ table.bindings.map Prod.fst then
    { bindings := rebind key value table.bindings
      distinct := by
        rw [map_fst_rebind]
        exact table.distinct }
  else
    { bindings := table.bindings ++ [(key, value)]
      distinct := by
        rw [List.map_append]
        refine List.nodup_append.2 ⟨table.distinct, by simp, ?_⟩
        intro first firstBound second secondNew same
        simp at secondNew
        subst secondNew
        subst same
        exact bound firstBound }

/-- Remove a key and its value. -/
def erase (table : Table Key Value) (key : Key) : Table Key Value where
  bindings := table.bindings.filter fun binding => binding.1 ≠ key
  distinct := by
    have sub : ((table.bindings.filter fun binding => binding.1 ≠ key).map Prod.fst).Sublist
        (table.bindings.map Prod.fst) :=
      List.Sublist.map Prod.fst List.filter_sublist
    exact List.Nodup.sublist sub table.distinct

/-- Change the value of a bound key and leave an unbound one alone. -/
def modify (table : Table Key Value) (key : Key) (change : Value → Value) :
    Table Key Value :=
  match table.find? key with
  | some value => table.insert key (change value)
  | none => table

/-- Bind every pair of a list, a later pair winning over an earlier one. -/
def ofList (pairs : List (Key × Value)) : Table Key Value :=
  pairs.foldl (fun table pair => table.insert pair.1 pair.2) empty

@[simp]
theorem find?_empty (key : Key) : (empty : Table Key Value).find? key = none := rfl

theorem find?_rebind_self (key : Key) (value : Value)
    (bindings : List (Key × Value)) (bound : key ∈ bindings.map Prod.fst) :
    (rebind key value bindings).find? (fun binding => binding.1 = key) =
      some (key, value) := by
  induction bindings with
  | nil => simp at bound
  | cons first rest ih =>
    by_cases same : first.1 = key
    · simp [rebind, same]
    · have later : key ∈ rest.map Prod.fst := by
        simp only [List.map_cons, List.mem_cons] at bound
        exact bound.resolve_left fun equal => same equal.symm
      have tail := ih later
      simp only [rebind] at tail ⊢
      simp [same, tail]

theorem find?_rebind_ne (key other : Key) (value : Value)
    (differs : other ≠ key) (bindings : List (Key × Value)) :
    (rebind key value bindings).find? (fun binding => binding.1 = other) =
      bindings.find? fun binding => binding.1 = other := by
  induction bindings with
  | nil => rfl
  | cons first rest ih =>
    simp only [rebind] at ih ⊢
    by_cases same : first.1 = key
    · rw [List.map_cons, if_pos same, List.find?_cons_of_neg, List.find?_cons_of_neg, ih]
      · simpa using fun equal => differs (equal.symm.trans same)
      · simpa using Ne.symm differs
    · rw [List.map_cons, if_neg same]
      by_cases hit : first.1 = other
      · rw [List.find?_cons_of_pos, List.find?_cons_of_pos] <;> simpa using hit
      · rw [List.find?_cons_of_neg, List.find?_cons_of_neg, ih] <;> simpa using hit

@[simp]
theorem find?_insert_self (table : Table Key Value) (key : Key) (value : Value) :
    (table.insert key value).find? key = some value := by
  unfold insert find?
  split
  · next bound => simp [find?_rebind_self key value table.bindings bound]
  · next bound =>
    have absent : table.bindings.find? (fun binding => binding.1 = key) = none := by
      rw [List.find?_eq_none]
      intro binding member hit
      exact bound (List.mem_map.2 ⟨binding, member, by simpa using hit⟩)
    simp [List.find?_append, absent]

@[simp]
theorem find?_insert_ne (table : Table Key Value) {key other : Key} (value : Value)
    (differs : other ≠ key) :
    (table.insert key value).find? other = table.find? other := by
  unfold insert find?
  split
  · rw [find?_rebind_ne key other value differs]
  · simp [List.find?_append, Ne.symm differs]

@[simp]
theorem find?_erase_self (table : Table Key Value) (key : Key) :
    (table.erase key).find? key = none := by
  simp [erase, find?]

@[simp]
theorem find?_erase_ne (table : Table Key Value) {key other : Key}
    (differs : other ≠ key) :
    (table.erase key).find? other = table.find? other := by
  simp only [erase, find?, List.find?_filter]
  congr 2
  funext binding
  by_cases hit : binding.1 = other <;> simp [hit, differs]

/-- The bound keys are those under which something is found. -/
theorem mem_keys_iff {table : Table Key Value} {key : Key} :
    key ∈ table.keys ↔ table.find? key ≠ none := by
  simp [keys, find?]

omit [DecidableEq Key] in
/-- Two tables with the same bindings are equal. -/
theorem ext {first second : Table Key Value}
    (same : first.bindings = second.bindings) : first = second := by
  cases first
  cases second
  cases same
  rfl

end Table

end FrameEval
