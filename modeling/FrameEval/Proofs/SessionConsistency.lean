import FrameEval.Proofs.Course
import FrameEval.Proofs.Histories
import FrameEval.Proofs.Server.SessionCalls
import FrameEval.Server.Tool

/-!
# The consistency of the session table

A session is put into the table in one step and made the current one in another, and it is
taken out and deselected in two steps as well.  Between such steps other calls take theirs.
Still the current session is in the table unless it is being closed, every session is handed
out by one closing call at most, and whoever looks for the current session gets one that is in
the table at that moment.

What carries this is that the name of a session is known to nobody before the session is the
current one, so that none is closed while it is being created.
-/

namespace FrameEval.Server

open Wire

/-! ## Disconnections -/

namespace Tool

/-- On the table, a disconnection does nothing but close the current session. -/
theorem disconnect_eq :
    disconnect = (do
      match ← lift (Handling.onSessions SessionTable.closeCurrent) with
      | none => refuse "No active debug session"
      | some (id, found) => do
          if let some link := found then
            let _ ← attempt link Call.dispose
            lift (Handling.act (.discard link))
          return s!"Disconnected from debug session: {id}") := by
  apply congrArg (Dialogue.ask (Query.plain (.onSessions .current)))
  funext found
  cases found <;> rfl

/-- A disconnection makes one call at most, when it has closed the current session, and only
over the link that it has then taken out of the table itself. -/
def DisposesOfTaken : Prop :=
  ∀ (record : Dialogue.Record Query.Answer) (link : LinkId) (request : Remote.Request),
    Dialogue.Asks disconnect record (.plain (.overLink link request)) →
      ∃ id, record =
        [⟨.plain (.onSessions .current), some id⟩,
          ⟨.plain (.onSessions (.remove id)), some link⟩,
          ⟨.plain (.onSessions (.deselect id)), ()⟩]

theorem disposes_of_taken : DisposesOfTaken := by
  intro record link request asks
  cases asks with
  | @later _ _ _ current record asks =>
      cases current with
      | none => cases asks
      | some id =>
          cases asks with
          | @later _ _ _ taken record asks =>
              cases taken with
              | none =>
                  cases asks with
                  | later asks => cases asks
              | some found =>
                  cases asks with
                  | later asks =>
                      cases asks with
                      | here => exact ⟨id, rfl⟩
                      | later asks =>
                          cases asks with
                          | later asks => cases asks

end Tool

namespace SessionTable

variable {Link : Type}

namespace Stage

/-- The session that a call creates. -/
def opens? : Stage Link → Option (SessionId × Link)
  | creating id link => some (id, link)
  | selecting id link => some (id, link)
  | ended (.created id link) => some (id, link)
  | _ => none

/-- The name of the session that a call is about to create. -/
def creates? : Stage Link → Option SessionId
  | creating id _ => some id
  | selecting id _ => some id
  | _ => none

/-- The name of the session that a call closes. -/
def closes? : Stage Link → Option SessionId
  | closing id => some id
  | deselecting id _ => some id
  | ended (.closed id _) => some id
  | _ => none

/-- The session that a call has taken out of the table. -/
def takes? : Stage Link → Option (SessionId × Link)
  | deselecting id (some link) => some (id, link)
  | ended (.closed id (some link)) => some (id, link)
  | _ => none

/-- Whether a call names a session, be it that it creates or that it closes one. -/
def Names (stage : Stage Link) (id : SessionId) : Prop :=
  (∃ link, stage.opens? = some (id, link)) ∨ stage.closes? = some id

/-- Whether a call that changes both parts of the table has changed only one of them. -/
inductive IsBetween : Stage Link → Prop
  | selecting (id : SessionId) (link : Link) : IsBetween (selecting id link)
  | deselecting (id : SessionId) (found : Option Link) : IsBetween (deselecting id found)

section

variable {table : SessionTable Link} {stage : Stage Link} {id : SessionId} {link : Link}

theorem opens?_of_creates? (creates : stage.creates? = some id) :
    ∃ link, stage.opens? = some (id, link) := by
  cases stage with
  | creating _ link => exact ⟨link, congrArg (Option.map (·, link)) creates⟩
  | selecting _ link => exact ⟨link, congrArg (Option.map (·, link)) creates⟩
  | _ => cases creates

theorem closes?_of_creates? (creates : stage.creates? = some id) : stage.closes? = none := by
  cases stage with
  | creating _ _ => rfl
  | selecting _ _ => rfl
  | _ => cases creates

theorem closes?_of_takes? (takes : stage.takes? = some (id, link)) : stage.closes? = some id := by
  cases stage with
  | deselecting _ found =>
      cases found with
      | none => cases takes
      | some _ =>
          cases takes
          rfl
  | ended outcome =>
      cases outcome with
      | closed _ found =>
          cases found with
          | none => cases takes
          | some _ =>
              cases takes
              rfl
      | _ => cases takes
  | _ => cases takes

/-! ### One step -/

theorem opens?_next : (stage.next table).opens? = stage.opens? := by
  cases stage <;> simp only [next] <;> first | rfl | (split <;> rfl)

theorem creates?_of_next (creates : (stage.next table).creates? = some id) :
    stage.creates? = some id := by
  cases stage with
  | creating _ _ => exact creates
  | leaving | seeking =>
      rw [next] at creates
      split at creates <;> cases creates
  | _ => cases creates

/-- Whoever closes a session closed it before, or has just looked it up as the current one. -/
theorem closes?_of_next (closes : (stage.next table).closes? = some id) :
    stage.closes? = some id ∨ table.current = some id := by
  cases stage with
  | closing _ => exact .inl closes
  | deselecting _ _ => exact .inl closes
  | leaving =>
      rw [next] at closes
      split at closes
      · cases closes
      · next current =>
          cases closes
          exact .inr current
  | ended _ => exact .inl closes
  | seeking =>
      rw [next] at closes
      split at closes <;> cases closes
  | _ => cases closes

/-- Whoever has taken a session had taken it before, or has just found it. -/
theorem takes?_of_next (takes : (stage.next table).takes? = some (id, link)) :
    stage.takes? = some (id, link) ∨
      stage = closing id ∧ table.sessions.find? id = some link := by
  cases stage with
  | closing name =>
      rw [next] at takes
      cases found : table.sessions.find? name with
      | none =>
          rw [found] at takes
          cases takes
      | some link =>
          rw [found] at takes
          cases takes
          exact .inr ⟨rfl, found⟩
  | deselecting name found =>
      cases found with
      | none => cases takes
      | some _ => exact .inl takes
  | leaving | seeking =>
      rw [next] at takes
      split at takes <;> cases takes
  | ended _ => exact .inl takes
  | _ => cases takes

theorem eq_creating_of_next (selecting : stage.next table = .selecting id link) :
    stage = creating id link := by
  cases stage with
  | creating _ _ =>
      cases selecting
      rfl
  | leaving | seeking =>
      rw [next] at selecting
      split at selecting <;> cases selecting
  | _ => cases selecting

/-- Whoever is to find a session has just looked up its name. -/
theorem current_of_next_finding (finding : stage.next table = .finding id) :
    table.current = some id := by
  cases stage with
  | seeking =>
      rw [next] at finding
      split at finding
      · cases finding
      · next current =>
          cases finding
          exact current
  | leaving =>
      rw [next] at finding
      split at finding <;> cases finding
  | _ => cases finding

/-- Whoever returns a session returned it before, or has just found it. -/
theorem find?_of_next_session (session : stage.next table = .ended (.session (some link))) :
    stage = .ended (.session (some link)) ∨
      ∃ id, stage = finding id ∧ table.sessions.find? id = some link := by
  cases stage with
  | finding id => exact .inr ⟨id, rfl, Outcome.session.inj (ended.inj session)⟩
  | ended _ => exact .inl session
  | leaving | seeking =>
      rw [next] at session
      split at session <;> cases session
  | _ => cases session

/-- A step changes the entry of one name at most. -/
theorem find?_effect
    (notCreating : ∀ link, stage ≠ creating id link) (notClosing : stage ≠ closing id) :
    (stage.effect table).sessions.find? id = table.sessions.find? id := by
  cases stage with
  | creating name link =>
      have differs : id ≠ name := by
        rintro rfl
        exact notCreating link rfl
      exact Table.find?_insert_ne _ _ differs
  | closing name =>
      have differs : id ≠ name := by
        rintro rfl
        exact notClosing rfl
      exact Table.find?_erase_ne _ differs
  | deselecting _ _ =>
      rw [effect]
      split <;> rfl
  | _ => rfl

/-- A session that is the current one was so before, or was just selected. -/
theorem current_of_effect (current : (stage.effect table).current = some id) :
    (∃ link, stage = selecting id link) ∨
      table.current = some id ∧ ∀ found, stage ≠ deselecting id found := by
  cases stage with
  | selecting _ link =>
      cases current
      exact .inl ⟨link, rfl⟩
  | deselecting name found =>
      rw [effect] at current
      split at current
      · cases current
      · next differs =>
          refine .inr ⟨current, ?_⟩
          rintro _ ⟨⟩
          exact differs current
  | _ => exact .inr ⟨current, by rintro _ ⟨⟩⟩

end

end Stage

namespace Office

/-- Whether a call can be made.  The name of a new session is one that no call has named, and
until the session is created nobody knows it. -/
def Admits (office : Office Link) : Call Link → Prop
  | .create id _ => ∀ number stage, office.At number stage → ¬ stage.Names id
  | .close id => ∀ number stage, office.At number stage → stage.creates? ≠ some id
  | _ => True

/-- All names of sessions are new. -/
def Fresh (history : List (Happening Link)) : Prop :=
  ∀ earlier call later, history = earlier ++ .call call :: later → (after earlier).Admits call

/-! ## The invariant -/

/-- How the table and the calls on it go together. -/
structure Consistent (office : Office Link) : Prop where
  /-- A session is created by one call. -/
  drawn : ∀ {number other stage stage' id link link'},
    office.At number stage → office.At other stage' →
      stage.opens? = some (id, link) → stage'.opens? = some (id, link') → number = other
  /-- No call closes a session that is not created yet. -/
  unknown : ∀ {number other stage stage' id},
    office.At number stage → office.At other stage' →
      stage.creates? = some id → stage'.closes? ≠ some id
  inserted : ∀ {number id link}, office.At number (.selecting id link) →
    office.table.sessions.find? id = some link
  opened : ∀ {id link}, office.table.sessions.find? id = some link →
    ∃ number, office.At number (.selecting id link) ∨ office.At number (.ended (.created id link))
  selected : ∀ {id}, office.table.current = some id →
    ∃ number link, office.At number (.ended (.created id link))
  /-- Only a session that is being closed is the current one without being in the table. -/
  stale : ∀ {id}, office.table.current = some id →
    (∃ link, office.table.sessions.find? id = some link) ∨
      ∃ number found, office.At number (.deselecting id found)
  taken : ∀ {number stage id link}, office.At number stage → stage.takes? = some (id, link) →
    office.table.sessions.find? id = none ∧
      ∃ creator, office.At creator (.ended (.created id link))
  once : ∀ {number other stage stage' id link link'},
    office.At number stage → office.At other stage' →
      stage.takes? = some (id, link) → stage'.takes? = some (id, link') → number = other

variable {office : Office Link} {number other : Nat} {stage stage' : Stage Link}
  {id : SessionId} {link : Link}

theorem not_at_empty : ¬ (empty : Office Link).At number stage := by
  rintro ⟨⟩

theorem consistent_empty : Consistent (empty : Office Link) where
  drawn here := (not_at_empty here).elim
  unknown here := (not_at_empty here).elim
  inserted here := (not_at_empty here).elim
  opened := by rintro id link ⟨⟩
  selected := by rintro id ⟨⟩
  stale := by rintro id ⟨⟩
  taken here := (not_at_empty here).elim
  once here := (not_at_empty here).elim

/-! ## New calls -/

theorem takes?_stage (call : Call Link) : call.stage.takes? = none := by
  cases call <;> rfl

theorem stage_ne_selecting (call : Call Link) : call.stage ≠ .selecting id link := by
  cases call <;> rintro ⟨⟩

/-- A call that opens a session is admitted only if none has named it. -/
theorem Admits.not_names
    {call : Call Link} (admits : office.Admits call)
    (opens : call.stage.opens? = some (id, link)) (here : office.At number stage) :
    ¬ stage.Names id := by
  cases call with
  | create _ _ =>
      cases opens
      exact admits number stage here
  | _ => cases opens

/-- A call that closes a session is admitted only if it is not being created. -/
theorem Admits.not_creates
    {call : Call Link} (admits : office.Admits call)
    (closes : call.stage.closes? = some id) (here : office.At number stage) :
    stage.creates? ≠ some id := by
  cases call with
  | close _ =>
      cases closes
      exact admits number stage here
  | _ => cases closes

theorem Consistent.call
    (consistent : Consistent office) {call : Call Link} (admits : office.Admits call) :
    Consistent (office.call call) where
  drawn := by
    intro number other stage stage' id link link' here there opens opens'
    rcases (at_call call).1 here with here | ⟨rfl, rfl⟩
    · rcases (at_call call).1 there with there | ⟨rfl, rfl⟩
      · exact consistent.drawn here there opens opens'
      · exact (admits.not_names opens' here (.inl ⟨link, opens⟩)).elim
    · rcases (at_call call).1 there with there | ⟨rfl, rfl⟩
      · exact (admits.not_names opens there (.inl ⟨link', opens'⟩)).elim
      · rfl
  unknown := by
    intro number other stage stage' id here there creates closes
    rcases (at_call call).1 here with here | ⟨rfl, rfl⟩
    · rcases (at_call call).1 there with there | ⟨rfl, rfl⟩
      · exact consistent.unknown here there creates closes
      · exact admits.not_creates closes here creates
    · rcases Stage.opens?_of_creates? creates with ⟨link, opens⟩
      rcases (at_call call).1 there with there | ⟨rfl, rfl⟩
      · exact admits.not_names opens there (.inr closes)
      · rw [Stage.closes?_of_creates? creates] at closes
        cases closes
  inserted := by
    intro number id link here
    rcases (at_call call).1 here with here | ⟨-, same⟩
    · exact consistent.inserted here
    · exact (stage_ne_selecting call same.symm).elim
  opened := by
    intro id link found
    rcases consistent.opened found with ⟨number, here | here⟩
    · exact ⟨number, .inl ((at_call call).2 (.inl here))⟩
    · exact ⟨number, .inr ((at_call call).2 (.inl here))⟩
  selected := by
    intro id current
    rcases consistent.selected current with ⟨number, link, here⟩
    exact ⟨number, link, (at_call call).2 (.inl here)⟩
  stale := by
    intro id current
    rcases consistent.stale current with present | ⟨number, found, here⟩
    · exact .inl present
    · exact .inr ⟨number, found, (at_call call).2 (.inl here)⟩
  taken := by
    intro number stage id link here takes
    rcases (at_call call).1 here with here | ⟨-, rfl⟩
    · rcases consistent.taken here takes with ⟨gone, creator, created⟩
      exact ⟨gone, creator, (at_call call).2 (.inl created)⟩
    · rw [takes?_stage] at takes
      cases takes
  once := by
    intro number other stage stage' id link link' here there takes takes'
    rcases (at_call call).1 here with here | ⟨-, rfl⟩
    · rcases (at_call call).1 there with there | ⟨-, rfl⟩
      · exact consistent.once here there takes takes'
      · rw [takes?_stage] at takes'
        cases takes'
    · rw [takes?_stage] at takes
      cases takes

/-! ## Steps of calls -/

/-- A call has come to its stage before, or by this step. -/
theorem At.source
    (here : office.At number stage) (there : (office.proceed number).At other stage') :
    ∃ old, office.At other old ∧ (stage' = old ∨ stage' = old.next office.table) := by
  rcases (at_proceed here).1 there with ⟨rfl, rfl⟩ | ⟨-, there⟩
  · exact ⟨stage, here, .inr rfl⟩
  · exact ⟨stage', there, .inl rfl⟩

/-- What is over stays so. -/
theorem At.ended
    (here : office.At number stage) {outcome : Outcome Link}
    (there : office.At other (.ended outcome)) :
    (office.proceed number).At other (.ended outcome) := by
  by_cases same : other = number
  · subst same
    rw [here.unique there] at here
    exact (at_proceed here).2 (.inl ⟨rfl, rfl⟩)
  · exact (at_proceed here).2 (.inr ⟨same, there⟩)

theorem table_proceed (here : office.At number stage) :
    (office.proceed number).table = stage.effect office.table := by
  rw [proceed_at here]

namespace Consistent

/-- A call that creates a session is the only one to do so, and no call closes the session. -/
theorem find?_of_creating
    (consistent : Consistent office) (here : office.At number stage)
    (there : office.At other stage') (creates : stage'.creates? = some id)
    (differs : other ≠ number) :
    (stage.effect office.table).sessions.find? id = office.table.sessions.find? id := by
  apply Stage.find?_effect
  · rintro link rfl
    rcases Stage.opens?_of_creates? creates with ⟨link', opens⟩
    exact differs (consistent.drawn there here opens rfl)
  · rintro rfl
    exact consistent.unknown there here creates rfl

theorem inserted_proceed
    (consistent : Consistent office) (here : office.At number stage)
    (there : (office.proceed number).At other (.selecting id link)) :
    (office.proceed number).table.sessions.find? id = some link := by
  rw [table_proceed here]
  rcases (at_proceed here).1 there with ⟨-, new⟩ | ⟨differs, there⟩
  · rw [Stage.eq_creating_of_next new.symm]
    exact Table.find?_insert_self _ _ _
  · rw [consistent.find?_of_creating here there rfl differs]
    exact consistent.inserted there

theorem opened_proceed
    (consistent : Consistent office) (here : office.At number stage)
    (found : (office.proceed number).table.sessions.find? id = some link) :
    ∃ number', (office.proceed number).At number' (.selecting id link) ∨
      (office.proceed number).At number' (.ended (.created id link)) := by
  rw [table_proceed here] at found
  by_cases creating : ∃ link, stage = .creating id link
  · rcases creating with ⟨link', rfl⟩
    have same := (Table.find?_insert_self office.table.sessions id link').symm.trans found
    cases same
    exact ⟨number, .inl ((at_proceed here).2 (.inl ⟨rfl, rfl⟩))⟩
  by_cases closing : stage = .closing id
  · subst closing
    cases (Table.find?_erase_self office.table.sessions id).symm.trans found
  rw [Stage.find?_effect (fun link same => creating ⟨link, same⟩) closing] at found
  rcases consistent.opened found with ⟨creator, selecting | created⟩
  · by_cases same : creator = number
    · subst same
      rw [here.unique selecting] at here
      exact ⟨creator, .inr ((at_proceed here).2 (.inl ⟨rfl, rfl⟩))⟩
    · exact ⟨creator, .inl ((at_proceed here).2 (.inr ⟨same, selecting⟩))⟩
  · exact ⟨creator, .inr (here.ended created)⟩

theorem selected_proceed
    (consistent : Consistent office) (here : office.At number stage)
    (current : (office.proceed number).table.current = some id) :
    ∃ number' link, (office.proceed number).At number' (.ended (.created id link)) := by
  rw [table_proceed here] at current
  rcases Stage.current_of_effect current with ⟨link, rfl⟩ | ⟨old, -⟩
  · exact ⟨number, link, (at_proceed here).2 (.inl ⟨rfl, rfl⟩)⟩
  · rcases consistent.selected old with ⟨creator, link, created⟩
    exact ⟨creator, link, here.ended created⟩

theorem stale_proceed
    (consistent : Consistent office) (here : office.At number stage)
    (current : (office.proceed number).table.current = some id) :
    (∃ link, (office.proceed number).table.sessions.find? id = some link) ∨
      ∃ number' found, (office.proceed number).At number' (.deselecting id found) := by
  rw [table_proceed here] at current ⊢
  rcases Stage.current_of_effect current with ⟨link, rfl⟩ | ⟨old, notDeselecting⟩
  · exact .inl ⟨link, consistent.inserted here⟩
  rcases consistent.stale old with ⟨link, present⟩ | ⟨closer, found, pending⟩
  · by_cases closing : stage = .closing id
    · subst closing
      exact .inr ⟨number, _, (at_proceed here).2 (.inl ⟨rfl, rfl⟩)⟩
    by_cases creating : ∃ link, stage = .creating id link
    · rcases creating with ⟨link', rfl⟩
      exact .inl ⟨link', Table.find?_insert_self _ _ _⟩
    · rw [Stage.find?_effect (fun link same => creating ⟨link, same⟩) closing]
      exact .inl ⟨link, present⟩
  · by_cases same : closer = number
    · subst same
      exact (notDeselecting found (here.unique pending)).elim
    · exact .inr ⟨closer, found, (at_proceed here).2 (.inr ⟨same, pending⟩)⟩

/-- A session that was taken does not come back. -/
theorem gone_proceed
    (consistent : Consistent office) (here : office.At number stage)
    (there : office.At other stage') (takes : stage'.takes? = some (id, link)) :
    (office.proceed number).table.sessions.find? id = none := by
  have gone := (consistent.taken there takes).1
  rw [table_proceed here]
  by_cases closing : stage = .closing id
  · subst closing
    exact Table.find?_erase_self _ _
  · rw [Stage.find?_effect _ closing, gone]
    rintro link' rfl
    exact consistent.unknown here there rfl (Stage.closes?_of_takes? takes)

theorem taken_proceed
    (consistent : Consistent office) (here : office.At number stage)
    (there : (office.proceed number).At other stage')
    (takes : stage'.takes? = some (id, link)) :
    (office.proceed number).table.sessions.find? id = none ∧
      ∃ creator, (office.proceed number).At creator (.ended (.created id link)) := by
  have old : ∀ {number' stage'}, office.At number' stage' →
      stage'.takes? = some (id, link) →
      (office.proceed number).table.sessions.find? id = none ∧
        ∃ creator, (office.proceed number).At creator (.ended (.created id link)) := by
    intro number' stage' there takes
    rcases (consistent.taken there takes).2 with ⟨creator, created⟩
    exact ⟨consistent.gone_proceed here there takes, creator, here.ended created⟩
  rcases (at_proceed here).1 there with ⟨rfl, rfl⟩ | ⟨-, there⟩
  · rcases Stage.takes?_of_next takes with takes | ⟨rfl, found⟩
    · exact old here takes
    · rcases consistent.opened found with ⟨creator, selecting | created⟩
      · exact (consistent.unknown selecting here rfl rfl).elim
      · rw [table_proceed here]
        exact ⟨Table.find?_erase_self _ _, creator, here.ended created⟩
  · exact old there takes

theorem once_proceed
    (consistent : Consistent office) (here : office.At number stage)
    {first second : Nat} {stage₁ stage₂ : Stage Link} {link₁ link₂ : Link}
    (at₁ : (office.proceed number).At first stage₁)
    (at₂ : (office.proceed number).At second stage₂)
    (takes₁ : stage₁.takes? = some (id, link₁)) (takes₂ : stage₂.takes? = some (id, link₂)) :
    first = second := by
  -- whoever has taken a session had taken it before, or found it in the table by this step
  have split : ∀ {other stage' link}, (office.proceed number).At other stage' →
      stage'.takes? = some (id, link) →
      (∃ old, office.At other old ∧ old.takes? = some (id, link)) ∨
        other = number ∧ office.table.sessions.find? id = some link := by
    intro other stage' link there takes
    rcases (at_proceed here).1 there with ⟨rfl, rfl⟩ | ⟨-, there⟩
    · rcases Stage.takes?_of_next takes with takes | ⟨-, found⟩
      · exact .inl ⟨stage, here, takes⟩
      · exact .inr ⟨rfl, found⟩
    · exact .inl ⟨stage', there, takes⟩
  rcases split at₁ takes₁ with ⟨old₁, at₁, takes₁⟩ | ⟨rfl, found₁⟩
  · rcases split at₂ takes₂ with ⟨old₂, at₂, takes₂⟩ | ⟨-, found₂⟩
    · exact consistent.once at₁ at₂ takes₁ takes₂
    · rw [(consistent.taken at₁ takes₁).1] at found₂
      cases found₂
  · rcases split at₂ takes₂ with ⟨old₂, at₂, takes₂⟩ | ⟨rfl, -⟩
    · rw [(consistent.taken at₂ takes₂).1] at found₁
      cases found₁
    · rfl

theorem unknown_proceed
    (consistent : Consistent office) (here : office.At number stage)
    {first second : Nat} {stage₁ stage₂ : Stage Link}
    (at₁ : (office.proceed number).At first stage₁)
    (at₂ : (office.proceed number).At second stage₂)
    (creates : stage₁.creates? = some id) : stage₂.closes? ≠ some id := by
  intro closes
  have old : ∃ old, office.At first old ∧ old.creates? = some id := by
    rcases here.source at₁ with ⟨old, before, rfl | rfl⟩
    · exact ⟨_, before, creates⟩
    · exact ⟨old, before, Stage.creates?_of_next creates⟩
  rcases old with ⟨creator, at₁, creates⟩
  have before : ∃ old, office.At second old ∧
      (old.closes? = some id ∨ office.table.current = some id) := by
    rcases here.source at₂ with ⟨old, before, rfl | rfl⟩
    · exact ⟨_, before, .inl closes⟩
    · exact ⟨old, before, Stage.closes?_of_next closes⟩
  rcases before with ⟨closer, at₂, closes | current⟩
  · exact consistent.unknown at₁ at₂ creates closes
  · -- the current session is created already
    rcases consistent.selected current with ⟨other, link, created⟩
    rcases Stage.opens?_of_creates? creates with ⟨link', opens⟩
    cases consistent.drawn at₁ created opens rfl
    rw [at₁.unique created] at creates
    cases creates

theorem proceed (consistent : Consistent office) (here : office.At number stage) :
    Consistent (office.proceed number) where
  drawn := by
    intro first second stage₁ stage₂ id link link' at₁ at₂ opens opens'
    rcases here.source at₁ with ⟨old₁, at₁, same₁⟩
    rcases here.source at₂ with ⟨old₂, at₂, same₂⟩
    have opened : ∀ {old new : Stage Link}, new = old ∨ new = old.next office.table →
        old.opens? = new.opens? := by
      rintro old new (rfl | rfl)
      · rfl
      · exact Stage.opens?_next.symm
    exact consistent.drawn at₁ at₂ ((opened same₁).trans opens) ((opened same₂).trans opens')
  unknown at₁ at₂ creates := consistent.unknown_proceed here at₁ at₂ creates
  inserted there := consistent.inserted_proceed here there
  opened found := consistent.opened_proceed here found
  selected current := consistent.selected_proceed here current
  stale current := consistent.stale_proceed here current
  taken there takes := consistent.taken_proceed here there takes
  once at₁ at₂ takes₁ takes₂ := consistent.once_proceed here at₁ at₂ takes₁ takes₂

end Consistent

/-! ## Histories -/

theorem Fresh.of_append
    {earlier later : List (Happening Link)} (fresh : Fresh (earlier ++ later)) :
    Fresh earlier := by
  rintro first call rest rfl
  exact fresh first call (rest ++ later) (by simp)

theorem consistent_after {history : List (Happening Link)} (fresh : Fresh history) :
    Consistent (after history) := by
  induction history using List.reverseRecOn with
  | nil => exact consistent_empty
  | append_singleton history happening ih =>
      have before := ih fresh.of_append
      rw [after_concat]
      cases happening with
      | call call => exact before.call (fresh history call [] rfl)
      | proceed number =>
          rcases (staged_after history).proceed number with ⟨stage, here⟩ | idle
          · exact before.proceed here
          · rw [step, idle]
            exact before

section

variable {history : List (Happening Link)}

/-- A call looked up a name that was current then. -/
def LookedUp (history : List (Happening Link)) (number : Nat) (id : SessionId) : Prop :=
  Happened (fun earlier happening =>
    happening = .proceed number ∧ (after earlier).table.current = some id) history

/-- A call looked up a name that was current then, and found a session that was under that name
in the table at its second step. -/
def Found (history : List (Happening Link)) (number : Nat) (link : Link) : Prop :=
  Happened (fun earlier happening => ∃ id, happening = .proceed number ∧
    LookedUp earlier number id ∧ (after earlier).table.sessions.find? id = some link) history

/-- Whoever is to find a session has looked up its name. -/
theorem lookedUp_of_finding (finding : (after history).At number (.finding id)) :
    LookedUp history number id := by
  induction history using List.reverseRecOn with
  | nil => exact (not_at_empty finding).elim
  | append_singleton history happening ih =>
      rw [after_concat] at finding
      cases happening with
      | call call =>
          rcases (at_call call).1 finding with finding | ⟨-, same⟩
          · exact (ih finding).of_append
          · cases call <;> cases same
      | proceed other =>
          rcases (staged_after history).proceed other with ⟨stage, here⟩ | idle
          · rcases (at_proceed here).1 finding with ⟨rfl, new⟩ | ⟨-, finding⟩
            · exact happened_concat.2 (.inl ⟨rfl, Stage.current_of_next_finding new.symm⟩)
            · exact (ih finding).of_append
          · rw [step, idle] at finding
            exact (ih finding).of_append

/-- A session that was returned was found. -/
theorem found_of_session
    (returned : (after history).At number (.ended (.session (some link)))) :
    Found history number link := by
  induction history using List.reverseRecOn with
  | nil => exact (not_at_empty returned).elim
  | append_singleton history happening ih =>
      rw [after_concat] at returned
      cases happening with
      | call call =>
          rcases (at_call call).1 returned with returned | ⟨-, same⟩
          · exact (ih returned).of_append
          · cases call <;> cases same
      | proceed other =>
          rcases (staged_after history).proceed other with ⟨stage, here⟩ | idle
          · rcases (at_proceed here).1 returned with ⟨rfl, new⟩ | ⟨-, returned⟩
            · rcases Stage.find?_of_next_session new.symm with rfl | ⟨id, rfl, found⟩
              · exact (ih here).of_append
              · exact happened_concat.2 (.inl ⟨id, rfl, lookedUp_of_finding here, found⟩)
            · exact (ih returned).of_append
          · rw [step, idle] at returned
            exact (ih returned).of_append

end

/-! ## Whatever the order of the steps -/

/-- A call is over and returned something. -/
def Returned (history : List (Happening Link)) (number : Nat) (outcome : Outcome Link) : Prop :=
  (after history).At number (.ended outcome)

/-- What is so for all calls together, in whichever order they took their steps. -/
structure Coherent (history : List (Happening Link)) : Prop where
  /-- While no call is between its two changes, the current session is in the table. -/
  current : (∀ number stage, (after history).At number stage → ¬ stage.IsBetween) →
    ∀ id, (after history).table.current = some id →
      ∃ link, (after history).table.sessions.find? id = some link
  /-- At any time, it is in the table or being closed. -/
  stale : ∀ id, (after history).table.current = some id →
    (∃ link, (after history).table.sessions.find? id = some link) ∨
      ∃ number found, (after history).At number (.deselecting id found)
  /-- A session is handed out by one closing call at most. -/
  once : ∀ number other id link link',
    Returned history number (.closed id (some link)) →
      Returned history other (.closed id (some link')) → number = other
  /-- What is handed out is the session that was created under the name. -/
  own : ∀ number id link, Returned history number (.closed id (some link)) →
    ∃ creator, Returned history creator (.created id link)
  /-- Different sessions have different names. -/
  drawn : ∀ number other id link link',
    Returned history number (.created id link) →
      Returned history other (.created id link') → number = other
  /-- Whoever gets the current session gets one that was in the table at the second step of the
  call, under the name that was the current one at the first. -/
  present : ∀ number link, Returned history number (.session (some link)) →
    Found history number link

/-- Calls on the session table keep it consistent in every order of their steps.  A session is
taken once, and a disconnection disposes of nothing that it has not taken. -/
theorem session_table_is_consistent
    (history : List (Happening Link))
    (fresh : Fresh history) :
    Coherent history ∧ Tool.DisposesOfTaken := by
  have consistent := consistent_after fresh
  have settled : (∀ number stage, (after history).At number stage → ¬ stage.IsBetween) →
      ∀ id, (after history).table.current = some id →
        ∃ link, (after history).table.sessions.find? id = some link := by
    intro settled id current
    rcases consistent.stale current with present | ⟨number, found, pending⟩
    · exact present
    · exact (settled number _ pending (.deselecting id found)).elim
  refine ⟨?_, Tool.disposes_of_taken⟩
  exact {
    current := settled
    stale := fun id current => consistent.stale current
    once := fun number other id link link' closed closed' => consistent.once closed closed' rfl rfl
    own := fun number id link closed => (consistent.taken closed rfl).2
    drawn := fun number other id link link' created created' =>
      consistent.drawn created created' rfl rfl
    present := fun number link returned => found_of_session returned }

/-! ## Two disconnections at once -/

theorem fresh_nil : Fresh ([] : List (Happening Link)) := by
  intro earlier call later whole
  exact absurd whole.symm (by simp)

theorem Fresh.concat
    {history : List (Happening Link)} (fresh : Fresh history) {happening : Happening Link}
    (admits : ∀ call, happening = .call call → (after history).Admits call) :
    Fresh (history ++ [happening]) := by
  intro earlier call later whole
  rcases concat_eq_append_cons.1 whole with ⟨rfl, calls, -⟩ | ⟨rest, -, same⟩
  · exact admits call calls
  · exact fresh earlier call rest same

theorem Fresh.proceed
    {history : List (Happening Link)} (fresh : Fresh history) (number : Nat) :
    Fresh (history ++ [.proceed number]) :=
  fresh.concat (by rintro call ⟨⟩)

theorem Fresh.call
    {history : List (Happening Link)} (fresh : Fresh history) (call : Call Link)
    (admits : (after history).Admits call) :
    Fresh (history ++ [.call call]) :=
  fresh.concat (by rintro call ⟨⟩; exact admits)

/-- A session is created, and two calls close the current session: both look up its name before
one of them takes it out of the table. -/
def rivals : List (Happening Nat) :=
  [.call (.create "a" 7), .proceed 0, .proceed 0, .call .closeCurrent, .call .closeCurrent,
    .proceed 1, .proceed 2, .proceed 2, .proceed 1, .proceed 1, .proceed 2]

theorem fresh_rivals : Fresh rivals := by
  have created : Fresh ([] ++ [.call (.create "a" 7)] : List (Happening Nat)) :=
    fresh_nil.call _ (fun number stage here => (not_at_empty here).elim)
  have called := (((created.proceed 0).proceed 0).call .closeCurrent trivial).call
    .closeCurrent trivial
  exact (((((called.proceed 1).proceed 2).proceed 2).proceed 1).proceed 1).proceed 2

theorem rivals_take_one_session :
    Fresh rivals ∧ Returned rivals 2 (.closed "a" (some 7)) ∧
      ¬ (∃ link, Returned rivals 1 (.closed "a" (some link))) ∧
      (after rivals).table.current = none := by
  have coherent := (session_table_is_consistent rivals fresh_rivals).1
  have returned : Returned rivals 2 (.closed "a" (some 7)) := rfl
  have other : ¬ ∃ link, Returned rivals 1 (.closed "a" (some link)) := by
    rintro ⟨link, returned'⟩
    exact absurd (coherent.once 2 1 "a" 7 link returned returned') (by decide)
  exact ⟨fresh_rivals, returned, other, rfl⟩

end Office

end SessionTable

end FrameEval.Server
