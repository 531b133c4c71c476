import FrameEval.Proofs.Link.Traffic

/-!
# The scopes of invocations

A thread is marked for an invocation by a scope, from when the scope is entered until it is
dropped.  The marks are kept in a table that several handles share: a scope is entered through
any of them, it is counted in the table for all of them, and scopes are dropped in any order.

The invariant is that each table counts the scopes that were entered in it and not dropped.
-/

namespace FrameEval.Link

open Wire

/-- A scope that was entered, with its table. -/
structure Scope where
  table : Nat
  thread : ThreadId
  deriving DecidableEq

/-- Tables, and what refers to them. -/
structure Registry where
  tables : List InvokingThreads
  /-- The table that each handle shares. -/
  handles : List Nat
  /-- The scopes in the order in which they were entered.  A dropped one is gone for good. -/
  scopes : List (Option Scope)

namespace InvokingThreads

variable {threads : InvokingThreads} {thread other : ThreadId}

theorem find?_enter_ne
    (differs : other ≠ thread) :
    (threads.enter thread).counts.find? other = threads.counts.find? other :=
  Table.find?_insert_ne _ _ differs

theorem find?_leave_ne
    (differs : other ≠ thread) :
    (threads.leave thread).counts.find? other = threads.counts.find? other := by
  rw [leave]
  split
  · rfl
  · split
    · exact Table.find?_erase_ne _ differs
    · exact Table.find?_insert_ne _ _ differs

end InvokingThreads

namespace Registry

/-- What callers do with tables and scopes. -/
inductive Act where
  /-- A new table is made, with a handle for it. -/
  | create
  /-- Another handle is made for the table of a handle. -/
  | clone (handle : Nat)
  /-- A scope is entered through a handle. -/
  | enter (handle : Nat) (thread : ThreadId)
  /-- A scope is dropped. -/
  | drop (position : Nat)

def empty : Registry := ⟨[], [], []⟩

/-- What an act does.  It does nothing if the handle or the scope is not there. -/
def step (registry : Registry) : Act → Registry
  | .create =>
      { registry with
        tables := registry.tables ++ [.empty]
        handles := registry.handles ++ [registry.tables.length] }
  | .clone handle =>
      match registry.handles[handle]? with
      | some table => { registry with handles := registry.handles ++ [table] }
      | none => registry
  | .enter handle thread =>
      match registry.handles[handle]? with
      | some table =>
          { registry with
            tables := registry.tables.modify table (·.enter thread)
            scopes := registry.scopes ++ [some ⟨table, thread⟩] }
      | none => registry
  | .drop position =>
      match registry.scopes[position]? with
      | some (some scope) =>
          { registry with
            tables := registry.tables.modify scope.table (·.leave scope.thread)
            scopes := registry.scopes.set position none }
      | _ => registry

/-- What acts do, one after another. -/
def run (registry : Registry) (acts : List Act) : Registry :=
  acts.foldl step registry

/-- The scope that an act enters or drops. -/
def moved? (registry : Registry) : Act → Option Scope
  | .create => none
  | .clone _ => none
  | .enter handle thread => registry.handles[handle]?.map (⟨·, thread⟩)
  | .drop position => registry.scopes[position]?.join

/-! ## The scopes of a table -/

/-- The thread of a scope in a table. -/
def threadIn? (table : Nat) : Option Scope → Option ThreadId
  | some scope => if scope.table = table then some scope.thread else none
  | none => none

/-- The threads of the scopes of a table that were not dropped, one for each. -/
def live (registry : Registry) (table : Nat) : List ThreadId :=
  registry.scopes.filterMap (threadIn? table)

variable {registry : Registry}

theorem threadIn?_eq_some_iff
    {table : Nat} {thread : ThreadId} {scope : Option Scope} :
    threadIn? table scope = some thread ↔ scope = some ⟨table, thread⟩ := by
  cases scope with
  | none => simp [threadIn?]
  | some scope =>
      rcases scope with ⟨home, owner⟩
      simp only [threadIn?, Option.ite_none_right_eq_some, Option.some.injEq, Scope.mk.injEq]

theorem mem_live_iff
    {table : Nat} {thread : ThreadId} :
    thread ∈ registry.live table ↔ some ⟨table, thread⟩ ∈ registry.scopes := by
  simp only [live, List.mem_filterMap, threadIn?_eq_some_iff, exists_eq_right]

theorem count_live
    (table : Nat) (thread : ThreadId) :
    (registry.live table).count thread = registry.scopes.count (some ⟨table, thread⟩) := by
  rw [live, List.count_filterMap, List.count]
  apply List.countP_congr
  intro scope _
  rw [beq_iff_eq, beq_iff_eq]
  exact threadIn?_eq_some_iff

/-- A dropped scope is missed in its own table and in no other. -/
theorem live_drop
    {position : Nat} {scope : Scope} (held : registry.scopes[position]? = some (some scope))
    (table : Nat) :
    ((registry.scopes.set position none).filterMap (threadIn? table)).Perm
      (if scope.table = table then (registry.live table).erase scope.thread
        else registry.live table) := by
  rcases List.getElem?_eq_some_iff.1 held with ⟨inside, found⟩
  have whole := List.take_append_drop position registry.scopes
  rw [List.drop_eq_getElem_cons inside, found] at whole
  have before : registry.live table =
      (registry.scopes.take position).filterMap (threadIn? table) ++
        (some scope :: registry.scopes.drop (position + 1)).filterMap (threadIn? table) := by
    rw [← List.filterMap_append, whole, live]
  rw [List.set_eq_take_append_cons_drop, if_pos inside, List.filterMap_append,
    List.filterMap_cons_none rfl, before]
  split
  · next home =>
      have thread : threadIn? table (some scope) = some scope.thread := if_pos home
      rw [List.filterMap_cons_some thread]
      apply List.Perm.symm
      apply (List.perm_middle.erase scope.thread).trans
      rw [List.erase_cons_head]
  · next away =>
      have missing : threadIn? table (some scope) = none := if_neg away
      rw [List.filterMap_cons_none missing]

/-! ## The counts -/

/-- Handles and scopes belong to tables, and each table counts its scopes. -/
structure Counted (registry : Registry) : Prop where
  handles : ∀ table ∈ registry.handles, table < registry.tables.length
  scopes : ∀ scope : Scope, some scope ∈ registry.scopes → scope.table < registry.tables.length
  counts : ∀ (table : Nat) (threads : InvokingThreads),
    registry.tables[table]? = some threads → threads.Counts (registry.live table)

theorem counted_empty : Counted empty where
  handles := fun _ member => absurd member List.not_mem_nil
  scopes := fun _ member => absurd member List.not_mem_nil
  counts := fun _ _ found => absurd found (by simp [empty])

theorem Counted.create (counted : Counted registry) : Counted (registry.step .create) where
  handles := by
    intro table member
    simp only [step, List.mem_append, List.mem_singleton, List.length_append] at member ⊢
    rcases member with old | rfl
    · exact Nat.lt_succ_of_lt (counted.handles table old)
    · exact Nat.lt_succ_self _
  scopes := by
    intro scope member
    simp only [step, List.length_append]
    exact Nat.lt_succ_of_lt (counted.scopes scope member)
  counts := by
    intro table threads found
    rw [step, List.getElem?_append] at found
    split at found
    · exact counted.counts table threads found
    · next beyond =>
        -- No scope can have been entered in a table that was not there.
        have unused : registry.live table = [] := by
          rw [List.eq_nil_iff_forall_not_mem]
          intro thread member
          exact beyond (counted.scopes ⟨table, thread⟩ (mem_live_iff.1 member))
        obtain rfl := List.mem_singleton.1 (List.mem_of_getElem? found)
        show InvokingThreads.Counts _ (registry.live table)
        rw [unused]
        exact InvokingThreads.counts_empty

theorem Counted.clone
    (counted : Counted registry) (handle : Nat) : Counted (registry.step (.clone handle)) := by
  rw [step]
  split
  · next table shared =>
      refine ⟨?_, counted.scopes, counted.counts⟩
      intro other member
      rcases List.mem_append.1 member with old | new
      · exact counted.handles other old
      · obtain rfl := List.mem_singleton.1 new
        exact counted.handles other (List.mem_of_getElem? shared)
  · exact counted

theorem Counted.enter
    (counted : Counted registry) (handle : Nat) (thread : ThreadId) :
    Counted (registry.step (.enter handle thread)) := by
  rw [step]
  split
  · next table shared =>
      have there := counted.handles table (List.mem_of_getElem? shared)
      refine ⟨?_, ?_, ?_⟩
      · rw [List.length_modify]
        exact counted.handles
      · rw [List.length_modify]
        intro scope member
        rcases List.mem_append.1 member with old | new
        · exact counted.scopes scope old
        · obtain rfl := Option.some.inj (List.mem_singleton.1 new)
          exact there
      · intro other threads found
        rw [List.getElem?_modify] at found
        rcases Option.map_eq_some_iff.1 found with ⟨before, stored, rfl⟩
        have counts := counted.counts other before stored
        rw [live, List.filterMap_append]
        split
        · next same =>
            subst same
            apply (counts.enter thread).of_perm
            have last : threadIn? table (some ⟨table, thread⟩) = some thread := if_pos rfl
            rw [List.filterMap_cons_some last]
            exact (List.perm_append_singleton thread _).symm
        · next differs =>
            have missing : threadIn? other (some ⟨table, thread⟩) = none := if_neg differs
            rw [List.filterMap_cons_none missing, List.filterMap_nil, List.append_nil]
            exact counts
  · exact counted

theorem Counted.drop
    (counted : Counted registry) (position : Nat) :
    Counted (registry.step (.drop position)) := by
  rw [step]
  split
  · next scope held =>
      refine ⟨?_, ?_, ?_⟩
      · rw [List.length_modify]
        exact counted.handles
      · rw [List.length_modify]
        intro other member
        exact counted.scopes other ((List.mem_or_eq_of_mem_set member).resolve_right nofun)
      · intro table threads found
        rw [List.getElem?_modify] at found
        rcases Option.map_eq_some_iff.1 found with ⟨before, stored, rfl⟩
        have counts := counted.counts table before stored
        have remaining := live_drop held table
        split
        · next same =>
            rw [if_pos same] at remaining
            exact (counts.leave scope.thread).of_perm remaining.symm
        · next differs =>
            rw [if_neg differs] at remaining
            exact counts.of_perm remaining.symm
  · exact counted

theorem Counted.step (counted : Counted registry) (act : Act) : Counted (registry.step act) := by
  cases act with
  | create => exact counted.create
  | clone handle => exact counted.clone handle
  | enter handle thread => exact counted.enter handle thread
  | drop position => exact counted.drop position

theorem Counted.run
    (counted : Counted registry) (acts : List Act) : Counted (registry.run acts) := by
  induction acts generalizing registry with
  | nil => exact counted
  | cons act later ih => exact ih (counted.step act)

/-! ## The other threads -/

/-- An act leaves the entry of a thread alone unless it moves a scope of the thread. -/
theorem find?_step
    {act : Act} {table : Nat} {thread : ThreadId} {threads : InvokingThreads}
    (stored : registry.tables[table]? = some threads)
    (spares : registry.moved? act ≠ some ⟨table, thread⟩) :
    ∃ after : InvokingThreads, (registry.step act).tables[table]? = some after ∧
      after.counts.find? thread = threads.counts.find? thread := by
  cases act with
  | create =>
      refine ⟨threads, ?_, rfl⟩
      rw [step, List.getElem?_append_left (List.getElem?_eq_some_iff.1 stored).1]
      exact stored
  | clone handle =>
      refine ⟨threads, ?_, rfl⟩
      rw [step]
      split <;> exact stored
  | enter handle entered =>
      rw [step]
      split
      · next home shared =>
          rw [List.getElem?_modify, stored]
          refine ⟨_, rfl, ?_⟩
          split
          · next same =>
              apply InvokingThreads.find?_enter_ne
              rintro rfl
              exact spares (by rw [moved?, shared, same]; rfl)
          · rfl
      · exact ⟨threads, stored, rfl⟩
  | drop position =>
      rw [step]
      split
      · next scope held =>
          rw [List.getElem?_modify, stored]
          refine ⟨_, rfl, ?_⟩
          split
          · next same =>
              apply InvokingThreads.find?_leave_ne
              rintro rfl
              exact spares (by rw [moved?, held, ← same]; rfl)
          · rfl
      · exact ⟨threads, stored, rfl⟩

/-! ## Summary -/

section

variable {table : Nat} {threads : InvokingThreads}

theorem Counted.find?_eq
    (counted : Counted registry) (stored : registry.tables[table]? = some threads)
    (thread : ThreadId) :
    threads.counts.find? thread =
      if some ⟨table, thread⟩ ∈ registry.scopes then
        some (registry.scopes.count (some ⟨table, thread⟩))
      else none := by
  rw [counted.counts table threads stored thread, count_live]
  simp only [mem_live_iff]

/-- There is something to count down for each scope. -/
theorem Counted.find?_eq_succ
    (counted : Counted registry) (stored : registry.tables[table]? = some threads)
    {thread : ThreadId} (held : some ⟨table, thread⟩ ∈ registry.scopes) :
    ∃ others : Nat, threads.counts.find? thread = some (others + 1) := by
  have positive := Nat.pos_iff_ne_zero.1 (List.count_pos_iff.2 held)
  rcases Nat.exists_eq_succ_of_ne_zero positive with ⟨others, count⟩
  refine ⟨others, ?_⟩
  rw [counted.find?_eq stored, if_pos held, count]

theorem Counted.find?_ne_zero
    (counted : Counted registry) (stored : registry.tables[table]? = some threads)
    (thread : ThreadId) : threads.counts.find? thread ≠ some 0 := by
  by_cases held : some ⟨table, thread⟩ ∈ registry.scopes
  · rcases counted.find?_eq_succ stored held with ⟨others, count⟩
    rw [count]
    exact fun zero => Nat.succ_ne_zero others (Option.some.inj zero)
  · rw [counted.find?_eq stored, if_neg held]
    nofun

end

end Registry

/-- However scopes are entered and dropped, a table counts for each thread the scopes that were not
dropped, so there is something to count down whenever one is dropped.  An act on one thread never
changes the entry of another. -/
theorem scopes_are_counted
    (acts : List Registry.Act) {handle table : Nat}
    (shared : (Registry.empty.run acts).handles[handle]? = some table) :
    ∃ threads : InvokingThreads,
      (Registry.empty.run acts).tables[table]? = some threads ∧
      (∀ thread : ThreadId,
        (threads.contains thread = true ↔
          some ⟨table, thread⟩ ∈ (Registry.empty.run acts).scopes) ∧
        threads.counts.find? thread =
          (if some ⟨table, thread⟩ ∈ (Registry.empty.run acts).scopes then
            some ((Registry.empty.run acts).scopes.count (some ⟨table, thread⟩))
          else none) ∧
        threads.counts.find? thread ≠ some 0) ∧
      (∀ (position : Nat) (thread : ThreadId),
        (Registry.empty.run acts).scopes[position]? = some (some ⟨table, thread⟩) →
        ∃ others : Nat, threads.counts.find? thread = some (others + 1)) ∧
      ∀ (act : Registry.Act) (thread : ThreadId),
        (Registry.empty.run acts).moved? act ≠ some ⟨table, thread⟩ →
        ∃ after : InvokingThreads,
          ((Registry.empty.run acts).step act).tables[table]? = some after ∧
          after.counts.find? thread = threads.counts.find? thread := by
  have counted := Registry.counted_empty.run acts
  have there := counted.handles table (List.mem_of_getElem? shared)
  have stored := List.getElem?_eq_getElem there
  refine ⟨_, stored, fun thread => ⟨?_, counted.find?_eq stored thread,
    counted.find?_ne_zero stored thread⟩, ?_, ?_⟩
  · rw [(counted.counts table _ stored).contains_iff, Registry.mem_live_iff]
  · intro position thread held
    exact counted.find?_eq_succ stored (List.mem_of_getElem? held)
  · intro act thread spares
    exact Registry.find?_step stored spares

/-- Two scopes of a thread are entered through two handles of a table, and one of another thread.
The first of them is dropped first. -/
theorem later_scope_is_counted :
    (Registry.empty.run [.create, .clone 0, .enter 0 1, .enter 1 1, .enter 0 2,
        .drop 0]).handles[1]? = some 0 ∧
      ∃ threads : InvokingThreads,
        (Registry.empty.run [.create, .clone 0, .enter 0 1, .enter 1 1, .enter 0 2,
          .drop 0]).tables[0]? = some threads ∧
        threads.counts.find? 1 = some 1 ∧ threads.contains 1 = true := by
  have shared : (Registry.empty.run [.create, .clone 0, .enter 0 1, .enter 1 1, .enter 0 2,
      .drop 0]).handles[1]? = some 0 := rfl
  rcases scopes_are_counted _ shared with ⟨threads, stored, counted, -⟩
  refine ⟨shared, threads, stored, ?_, (counted 1).1.2 (by decide)⟩
  rw [(counted 1).2.1]
  rfl

end FrameEval.Link
