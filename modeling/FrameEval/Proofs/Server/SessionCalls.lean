import FrameEval.Server.SessionTable
import Mathlib.Data.List.Induction

/-!
# Calls on the session table

Any number of calls go on beside one another.  Each takes its steps in its own order, one step
while it has the lock, and the steps of others may come in between.

A call is one of five operations, and a `Stage` says what is left of it.  `Stage.next` and
`Stage.effect` say once what one step of a call does, to the call and to the table.
-/

namespace FrameEval.Server.SessionTable

variable {Link : Type}

/-- Close the current session, whichever that is when it is looked up. -/
def closeCurrent : Operation Link (Option (SessionId × Option Link)) := do
  match ← currentId with
  | none => return none
  | some id => return some (id, ← close id)

/-- What is called. -/
inductive Call (Link : Type) where
  | create (id : SessionId) (link : Link)
  | currentSession
  | currentId
  | close (id : SessionId)
  | closeCurrent

/-- What a call returned. -/
inductive Outcome (Link : Type) where
  | created (id : SessionId) (link : Link)
  | session (found : Option Link)
  | name (found : Option SessionId)
  | closed (id : SessionId) (found : Option Link)
  /-- No session was the current one. -/
  | vacant

/-- The operation that a call carries out. -/
def Call.operation : Call Link → Operation Link (Outcome Link)
  | .create id link => do
      SessionTable.create id link
      return .created id link
  | .currentSession => return .session (← SessionTable.currentSession)
  | .currentId => return .name (← SessionTable.currentId)
  | .close id => return .closed id (← SessionTable.close id)
  | .closeCurrent => do
      match ← SessionTable.closeCurrent with
      | none => return .vacant
      | some (id, found) => return .closed id found

/-- A table and what is left of the calls on it, in the order in which they were made. -/
structure Office (Link : Type) where
  table : SessionTable Link
  calls : List (Operation Link (Outcome Link))

/-- What happens. -/
inductive Happening (Link : Type) where
  | call (call : Call Link)
  /-- The call of a number takes its next step. -/
  | proceed (number : Nat)

namespace Office

def empty : Office Link := ⟨.empty, []⟩

def call (call : Call Link) (office : Office Link) : Office Link :=
  { office with calls := office.calls ++ [call.operation] }

def proceed (number : Nat) (office : Office Link) : Office Link :=
  match office.calls[number]? with
  | some (.ask step next) =>
      let (answer, table) := office.table.apply step
      { table := table, calls := office.calls.set number (next answer) }
  | _ => office

def step (office : Office Link) : Happening Link → Office Link
  | .call call => office.call call
  | .proceed number => office.proceed number

/-- The office after a history. -/
def after (history : List (Happening Link)) : Office Link :=
  history.foldl step empty

@[simp]
theorem after_nil : (after [] : Office Link) = empty := rfl

theorem after_concat (history : List (Happening Link)) (happening : Happening Link) :
    after (history ++ [happening]) = (after history).step happening := by
  rw [after, List.foldl_append]
  rfl

end Office

/-! ## Stages -/

/-- How far a call has come. -/
inductive Stage (Link : Type) where
  | creating (id : SessionId) (link : Link)
  /-- The session is in the table and is not the current one yet. -/
  | selecting (id : SessionId) (link : Link)
  | closing (id : SessionId)
  /-- The session is not in the table and may still be the current one. -/
  | deselecting (id : SessionId) (found : Option Link)
  | leaving
  | seeking
  | finding (id : SessionId)
  | asking
  | ended (outcome : Outcome Link)

namespace Stage

/-- What is left to do. -/
def rest : Stage Link → Operation Link (Outcome Link)
  | creating id link =>
      .ask (.insert id link) fun _ => .ask (.select id) fun _ => .done (.created id link)
  | selecting id link => .ask (.select id) fun _ => .done (.created id link)
  | closing id =>
      .ask (.remove id) fun found => .ask (.deselect id) fun _ => .done (.closed id found)
  | deselecting id found => .ask (.deselect id) fun _ => .done (.closed id found)
  | leaving =>
      .ask .current fun
        | none => .done .vacant
        | some id =>
            .ask (.remove id) fun found => .ask (.deselect id) fun _ => .done (.closed id found)
  | seeking =>
      .ask .current fun
        | none => .done (.session none)
        | some id => .ask (.find id) fun found => .done (.session found)
  | finding id => .ask (.find id) fun found => .done (.session found)
  | asking => .ask .current fun found => .done (.name found)
  | ended outcome => .done outcome

/-- The stage of which something is left to do. -/
def ofRest? : Operation Link (Outcome Link) → Option (Stage Link)
  | .ask (.insert id link) _ => some (creating id link)
  | .ask (.select id) next =>
      match next () with
      | .done (.created _ link) => some (selecting id link)
      | _ => none
  | .ask (.remove id) _ => some (closing id)
  | .ask (.deselect id) next =>
      match next () with
      | .done (.closed _ found) => some (deselecting id found)
      | _ => none
  | .ask (.find id) _ => some (finding id)
  | .ask .current next =>
      match next none with
      | .done .vacant => some leaving
      | .done (.session _) => some seeking
      | .done (.name _) => some asking
      | _ => none
  | .done outcome => some (ended outcome)

theorem ofRest?_rest (stage : Stage Link) : ofRest? stage.rest = some stage := by
  cases stage <;> rfl

/-- What is left to do tells the stage. -/
theorem rest_injective {stage other : Stage Link} (same : stage.rest = other.rest) :
    stage = other := by
  rw [← Option.some.injEq, ← ofRest?_rest, same, ofRest?_rest]

/-- The stage after the next step. -/
def next (table : SessionTable Link) : Stage Link → Stage Link
  | creating id link => selecting id link
  | selecting id link => ended (.created id link)
  | closing id => deselecting id (table.sessions.find? id)
  | deselecting id found => ended (.closed id found)
  | leaving =>
      match table.current with
      | none => ended .vacant
      | some id => closing id
  | seeking =>
      match table.current with
      | none => ended (.session none)
      | some id => finding id
  | finding id => ended (.session (table.sessions.find? id))
  | asking => ended (.name table.current)
  | ended outcome => ended outcome

/-- What the next step does to the table. -/
def effect (table : SessionTable Link) : Stage Link → SessionTable Link
  | creating id link => { table with sessions := table.sessions.insert id link }
  | selecting id _ => { table with current := some id }
  | closing id => { table with sessions := table.sessions.erase id }
  | deselecting id _ =>
      if table.current = some id then { table with current := none } else table
  | _ => table

end Stage

/-- The stage of a call that was just made. -/
def Call.stage : Call Link → Stage Link
  | .create id link => .creating id link
  | .currentSession => .seeking
  | .currentId => .asking
  | .close id => .closing id
  | .closeCurrent => .leaving

theorem Call.operation_eq (call : Call Link) : call.operation = call.stage.rest := by
  cases call with
  | currentSession =>
      apply congrArg (Dialogue.ask Step.current)
      funext found
      cases found <;> rfl
  | closeCurrent =>
      apply congrArg (Dialogue.ask Step.current)
      funext found
      cases found <;> rfl
  | _ => rfl

namespace Office

variable {office : Office Link} {number other : Nat} {stage stage' : Stage Link}

/-- A call has come to a stage. -/
def At (office : Office Link) (number : Nat) (stage : Stage Link) : Prop :=
  office.calls[number]? = some stage.rest

theorem At.unique (here : office.At number stage) (there : office.At number stage') :
    stage = stage' := by
  rw [At, here] at there
  exact Stage.rest_injective (Option.some.inj there)

theorem At.lt (here : office.At number stage) : number < office.calls.length :=
  (List.getElem?_eq_some_iff.1 here).1

theorem at_call (call : Call Link) :
    (office.call call).At number stage ↔
      office.At number stage ∨ number = office.calls.length ∧ stage = call.stage := by
  rw [At, At, Office.call]
  rcases Nat.lt_trichotomy number office.calls.length with known | new | unknown
  · rw [List.getElem?_append_left known]
    constructor
    · exact .inl
    · rintro (here | ⟨new, -⟩)
      · exact here
      · omega
  · rw [new, List.getElem?_concat_length, Option.some.injEq, Call.operation_eq]
    constructor
    · intro same
      exact .inr ⟨rfl, (Stage.rest_injective same).symm⟩
    · rintro (here | ⟨-, rfl⟩)
      · exact absurd (List.getElem?_eq_some_iff.1 here).1 (Nat.lt_irrefl _)
      · rfl
  · rw [List.getElem?_eq_none (by simp; omega), List.getElem?_eq_none (by omega)]
    constructor
    · intro nothing
      cases nothing
    · rintro (nothing | ⟨new, -⟩)
      · cases nothing
      · omega

/-- What a step of a call does. -/
theorem proceed_at (here : office.At number stage) :
    office.proceed number =
      ⟨stage.effect office.table,
        office.calls.set number (stage.next office.table).rest⟩ := by
  rw [At] at here
  rw [proceed, here]
  cases stage with
  | leaving =>
      simp only [Stage.rest, Stage.next, Stage.effect, apply]
      cases office.table.current <;> rfl
  | seeking =>
      simp only [Stage.rest, Stage.next, Stage.effect, apply]
      cases office.table.current <;> rfl
  | ended outcome =>
      simp only [Stage.rest, Stage.next, Stage.effect]
      rcases List.getElem?_eq_some_iff.1 here with ⟨known, same⟩
      have unchanged : office.calls.set number (.done outcome) = office.calls := by
        rw [← Stage.rest, ← same, List.set_getElem_self]
      rw [unchanged]
  | _ => rfl

/-- Only the call that took the step has come to another stage. -/
theorem at_proceed (here : office.At number stage) :
    (office.proceed number).At other stage' ↔
      other = number ∧ stage' = stage.next office.table ∨
        other ≠ number ∧ office.At other stage' := by
  rw [proceed_at here, At, At]
  by_cases same : other = number
  · subst same
    rw [List.getElem?_set_self here.lt, Option.some.injEq]
    constructor
    · intro rests
      exact .inl ⟨rfl, (Stage.rest_injective rests).symm⟩
    · rintro (⟨-, rfl⟩ | ⟨differs, -⟩)
      · rfl
      · exact (differs rfl).elim
  · rw [List.getElem?_set_ne (Ne.symm same)]
    simp [same]

/-- Every call is at some stage. -/
def Staged (office : Office Link) : Prop :=
  ∀ number < office.calls.length, ∃ stage, office.At number stage

theorem staged_call (staged : office.Staged) (call : Call Link) : (office.call call).Staged := by
  intro number known
  rw [Office.call, List.length_append, List.length_singleton] at known
  by_cases new : number = office.calls.length
  · exact ⟨call.stage, (at_call call).2 (.inr ⟨new, rfl⟩)⟩
  · rcases staged number (by omega) with ⟨stage, here⟩
    exact ⟨stage, (at_call call).2 (.inl here)⟩

/-- A step is that of a call at some stage, or changes nothing. -/
theorem Staged.proceed (staged : office.Staged) (number : Nat) :
    (∃ stage, office.At number stage) ∨ office.proceed number = office := by
  by_cases known : number < office.calls.length
  · exact .inl (staged number known)
  · right
    rw [Office.proceed, List.getElem?_eq_none (by omega)]

theorem staged_proceed (staged : office.Staged) (number : Nat) :
    (office.proceed number).Staged := by
  rcases staged.proceed number with ⟨stage, here⟩ | idle
  · intro other known
    by_cases same : other = number
    · exact ⟨_, (at_proceed here).2 (.inl ⟨same, rfl⟩)⟩
    · rw [proceed_at here, List.length_set] at known
      rcases staged other known with ⟨stage', there⟩
      exact ⟨stage', (at_proceed here).2 (.inr ⟨same, there⟩)⟩
  · rwa [idle]

theorem staged_after (history : List (Happening Link)) : (after history).Staged := by
  induction history using List.reverseRecOn with
  | nil => exact fun number known => absurd known (Nat.not_lt_zero number)
  | append_singleton history happening ih =>
      rw [after_concat]
      cases happening with
      | call call => exact staged_call ih call
      | proceed number => exact staged_proceed ih number

end Office

end FrameEval.Server.SessionTable
