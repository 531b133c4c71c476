import FrameEval.Evaluation.Basic
import FrameEval.Proofs.Course

/-!
# Triples of evaluations

A triple says what holds after an evaluation if something held before it, of the record of
exchanges as well as of the activation.  A rule says the rest: what must hold whenever the
evaluation puts a question, and what when it stops early.  Every evaluation is built from a
handful of operations, each of which has its triple here, so the triple of a composed
evaluation follows its text.
-/

namespace FrameEval

/-- An activation with more operands, the top one first. -/
def Activation.over (activation : Activation) (operands : List RemoteValue) : Activation :=
  { activation with
    stack := { activation.stack with operands := operands ++ activation.stack.operands } }

namespace Evaluation

open Dialogue

variable {α β : Type}

/-- The exchanges of an evaluation with its surroundings. -/
abbrev Record := Dialogue.Record Inquiry.Answer

/-- The exchange of an operation that succeeded. -/
abbrev success (operation : Operation) (answer : operation.Answer) : Exchange Inquiry.Answer :=
  ⟨.operation operation, .ok answer⟩

/-- The exchange of an operation that failed. -/
abbrev failure (operation : Operation) (halt : Halt) : Exchange Inquiry.Answer :=
  ⟨.operation operation, .error halt⟩

/-- What an evaluation has to observe beside its result. -/
structure Rule where
  /-- What holds when a question is put. -/
  asks : Record → Inquiry → Prop
  /-- What holds when the evaluation stops early. -/
  stops : Record → Halt → Prop

/-- How an evaluation may end under a rule. -/
def Rule.ends (rule : Rule) (post : Record → α → Activation → Prop) (record : Record) :
    Except Halt α × Activation → Prop
  | (.ok value, activation) => post record value activation
  | (.error halt, _) => rule.stops record halt

/-- From wherever `pre` holds an evaluation observes a rule, and if it returns `post` holds. -/
def Triple (rule : Rule) (pre : Record → Activation → Prop) (evaluation : Evaluation α)
    (post : Record → α → Activation → Prop) : Prop :=
  ∀ record activation, pre record activation →
    (evaluation.start activation).Meets rule.asks (rule.ends post) record

/-! ## How evaluations start -/

theorem start_bind
    (evaluation : Evaluation α) (onward : α → Evaluation β) (activation : Activation) :
    (evaluation >>= onward).start activation =
      evaluation.start activation >>= fun ended =>
        match ended with
        | (.ok value, after) => (onward value).start after
        | (.error halt, after) => .done (.error halt, after) := by
  change (evaluation.start activation >>= fun ended => _) = _
  congr 1
  funext ⟨result, after⟩
  cases result <;> rfl

/-- A sequence is over when its first part stops early, or else when its second part is. -/
theorem ends_start_bind_iff
    {evaluation : Evaluation α} {onward : α → Evaluation β} {activation : Activation}
    {record : Record} {result : Except Halt β × Activation} :
    ((evaluation >>= onward).start activation).Ends record result ↔
      (∃ halt after, (evaluation.start activation).Ends record (.error halt, after) ∧
        result = (.error halt, after)) ∨
      ∃ first value between second, record = first ++ second ∧
        (evaluation.start activation).Ends first (.ok value, between) ∧
        ((onward value).start between).Ends second result := by
  rw [start_bind, ends_bind_iff]
  constructor
  · rintro ⟨first, ⟨halt | value, between⟩, second, rfl, ends, goes⟩
    · obtain ⟨rfl, rfl⟩ := (ends_done_iff _ _ _).1 goes
      rw [List.append_nil]
      exact .inl ⟨halt, between, ends, rfl⟩
    · exact .inr ⟨first, value, between, second, rfl, ends, goes⟩
  · rintro (⟨halt, after, ends, rfl⟩ | ⟨first, value, between, second, rfl, ends, goes⟩)
    · exact ⟨record, _, [], (List.append_nil record).symm, ends, .done⟩
    · exact ⟨first, _, second, rfl, ends, goes⟩

theorem asks_start_bind_iff
    {evaluation : Evaluation α} {onward : α → Evaluation β} {activation : Activation}
    {record : Record} {asked : Inquiry} :
    ((evaluation >>= onward).start activation).Asks record asked ↔
      (evaluation.start activation).Asks record asked ∨
      ∃ first value between second, record = first ++ second ∧
        (evaluation.start activation).Ends first (.ok value, between) ∧
        ((onward value).start between).Asks second asked := by
  rw [start_bind, asks_bind_iff]
  constructor
  · rintro (within | ⟨first, ⟨halt | value, between⟩, second, rfl, ends, goes⟩)
    · exact .inl within
    · exact (not_asks_done _ _ _ goes).elim
    · exact .inr ⟨first, value, between, second, rfl, ends, goes⟩
  · rintro (within | ⟨first, value, between, second, rfl, ends, goes⟩)
    · exact .inl within
    · exact .inr ⟨first, _, second, rfl, ends, goes⟩

theorem start_tryCatch
    (evaluation : Evaluation α) (handler : Halt → Evaluation α) (activation : Activation) :
    (tryCatch evaluation handler).start activation =
      evaluation.start activation >>= fun ended =>
        match ended with
        | (.ok value, after) => .done (.ok value, after)
        | (.error halt, after) => (handler halt).start after := by
  change (evaluation.start activation >>= fun ended => _) = _
  congr 1
  funext ⟨result, after⟩
  cases result <;> rfl

/-- A first part that asks nothing is left behind. -/
theorem start_bind_of_done
    {evaluation : Evaluation α} {onward : α → Evaluation β} {activation between : Activation}
    {value : α} (first : evaluation.start activation = .done (.ok value, between)) :
    (evaluation >>= onward).start activation = (onward value).start between := by
  rw [start_bind, first]
  rfl

theorem start_bind_of_error
    {evaluation : Evaluation α} {onward : α → Evaluation β} {activation between : Activation}
    {halt : Halt} (first : evaluation.start activation = .done (.error halt, between)) :
    (evaluation >>= onward).start activation = .done (.error halt, between) := by
  rw [start_bind, first]
  rfl

theorem start_pop
    (activation : Activation) (value : RemoteValue) (operands : List RemoteValue) :
    pop.start (activation.over (value :: operands)) =
      .done (.ok value, activation.over operands) := rfl

theorem start_inquire
    (inquiry : Inquiry) (activation : Activation) :
    (inquire inquiry).start activation =
      .ask inquiry fun answer => .done (.ok answer, activation) := rfl

theorem start_perform
    (operation : Operation) (activation : Activation) :
    (perform operation).start activation =
      .ask (.operation operation) fun answer =>
        match answer with
        | .ok answer => .done (.ok answer, activation)
        | .error halt => .done (.error halt, activation) := by
  rw [perform]
  rw [start_bind, start_inquire]
  change Dialogue.ask _ _ = _
  congr 1
  funext answer
  cases answer <;> rfl

theorem ends_perform
    (operation : Operation) (answer : operation.Answer) (activation : Activation) :
    ((perform operation).start activation).Ends [success operation answer]
      (.ok answer, activation) := by
  rw [start_perform]
  exact .ask .done

theorem of_ends_perform
    {operation : Operation} {answer : operation.Answer} {record : Record}
    {activation after : Activation}
    (ends : ((perform operation).start activation).Ends record (.ok answer, after)) :
    record = [success operation answer] ∧ after = activation := by
  rw [start_perform] at ends
  cases ends with
  | @ask _ _ reply _ _ rest =>
      cases reply with
      | ok answer =>
          cases rest
          exact ⟨rfl, rfl⟩
      | error halt => cases rest

/-! ## Rules of the composed evaluations -/

variable {rule : Rule} {pre : Record → Activation → Prop}

theorem Triple.bind
    {evaluation : Evaluation α} {onward : α → Evaluation β}
    {middle : Record → α → Activation → Prop} {post : Record → β → Activation → Prop}
    (first : Triple rule pre evaluation middle)
    (rest : ∀ value,
      Triple rule (fun record activation => middle record value activation)
        (onward value) post) :
    Triple rule pre (evaluation >>= onward) post := by
  intro record activation before
  rw [start_bind, meets_bind]
  refine (first record activation before).mono (fun _ _ safe => safe) ?_
  rintro later ⟨result, after⟩ ended
  cases result with
  | ok value => exact rest value later after ended
  | error halt => exact ended

/-- A sequence with a chosen assertion between its parts. -/
theorem Triple.via
    {evaluation : Evaluation α} {onward : α → Evaluation β}
    (middle : Record → α → Activation → Prop) {post : Record → β → Activation → Prop}
    (first : Triple rule pre evaluation middle)
    (rest : ∀ value,
      Triple rule (fun record activation => middle record value activation)
        (onward value) post) :
    Triple rule pre (evaluation >>= onward) post :=
  first.bind rest

theorem Triple.pure
    {value : α} {post : Record → α → Activation → Prop}
    (holds : ∀ record activation, pre record activation → post record value activation) :
    Triple rule pre (Pure.pure value) post :=
  holds

theorem Triple.fail
    {error : EvalError} {post : Record → α → Activation → Prop}
    (stops : ∀ record activation, pre record activation → rule.stops record (.failed error)) :
    Triple rule pre (Evaluation.fail error) post :=
  stops

theorem Triple.ofStop
    {halt : Halt} {post : Record → α → Activation → Prop}
    (stops : ∀ record activation, pre record activation → rule.stops record halt) :
    Triple rule pre (throw halt) post :=
  stops

theorem Triple.exhaust
    {post : Record → α → Activation → Prop}
    (stops : ∀ record activation, pre record activation → rule.stops record .exhausted) :
    Triple rule pre Evaluation.exhaust post :=
  stops

theorem Triple.orAbort
    {split : Option α} {post : Record → α → Activation → Prop}
    (returns : ∀ value, split = some value →
      ∀ record activation, pre record activation → post record value activation)
    (stops : split = none →
      ∀ record activation, pre record activation → rule.stops record .aborted) :
    Triple rule pre (Evaluation.orAbort split) post := by
  cases split with
  | some value => exact .pure (returns value rfl)
  | none => exact .ofStop (stops rfl)

theorem Triple.ofExcept
    {result : Except EvalError α} {post : Record → α → Activation → Prop}
    (returns : ∀ value, result = .ok value →
      ∀ record activation, pre record activation → post record value activation)
    (stops : ∀ error, result = .error error →
      ∀ record activation, pre record activation → rule.stops record (.failed error)) :
    Triple rule pre (Evaluation.ofExcept result) post := by
  cases result with
  | ok value => exact .pure (returns value rfl)
  | error error => exact .fail (stops error rfl)

theorem Triple.get
    {post : Record → Activation → Activation → Prop}
    (holds : ∀ record activation, pre record activation → post record activation activation) :
    Triple rule pre MonadState.get post :=
  holds

/-- What follows a look at the activation knows that it is the current one. -/
theorem Triple.reading
    {onward : Activation → Evaluation β} {post : Record → β → Activation → Prop}
    (rest : ∀ current,
      Triple rule (fun record activation => pre record activation ∧ activation = current)
        (onward current) post) :
    Triple rule pre (MonadState.get >>= onward) post :=
  .via (fun record current activation => pre record activation ∧ activation = current)
    (.get fun _ _ holds => ⟨holds, rfl⟩) rest

theorem Triple.modify
    {change : Activation → Activation} {post : Record → PUnit → Activation → Prop}
    (holds : ∀ record activation, pre record activation →
      post record ⟨⟩ (change activation)) :
    Triple rule pre (modify change) post :=
  holds

/-- An operation may be put, and whatever it is answered the evaluation stays in bounds. -/
structure Rule.Admits (rule : Rule) (record : Record) (operation : Operation)
    (after : Record → operation.Answer → Prop) : Prop where
  asks : rule.asks record (.operation operation)
  returns : ∀ answer, after (record ++ [success operation answer]) answer
  stops : ∀ halt, rule.stops (record ++ [failure operation halt]) halt

theorem Triple.perform
    {operation : Operation} {post : Record → operation.Answer → Activation → Prop}
    (admits : ∀ record activation, pre record activation →
      rule.Admits record operation fun later answer => post later answer activation) :
    Triple rule pre (Evaluation.perform operation) post := by
  intro record activation before
  have admitted := admits record activation before
  rw [start_perform]
  refine ⟨admitted.asks, fun answer => ?_⟩
  cases answer with
  | ok answer => exact admitted.returns answer
  | error halt => exact admitted.stops halt

theorem Triple.inquire
    {inquiry : Inquiry} {post : Record → inquiry.Answer → Activation → Prop}
    (asks : ∀ record activation, pre record activation → rule.asks record inquiry)
    (returns : ∀ record activation answer, pre record activation →
      post (record ++ [⟨inquiry, answer⟩]) answer activation) :
    Triple rule pre (Evaluation.inquire inquiry) post :=
  fun record activation before =>
    ⟨asks record activation before, fun answer => returns record activation answer before⟩

/-- An action on the operand stack puts no question. -/
theorem Triple.onStack
    {action : OperandStack.Action α} {post : Record → α → Activation → Prop}
    (returns : ∀ record activation value stack, pre record activation →
      action activation.stack = (.ok value, stack) →
        post record value { activation with stack := stack })
    (stops : ∀ record activation error stack, pre record activation →
      action activation.stack = (.error error, stack) → rule.stops record (.failed error)) :
    Triple rule pre (Evaluation.onStack action) post := by
  intro record activation before
  cases acted : action activation.stack with
  | mk result stack =>
      have started : (Evaluation.onStack action).start activation =
          (Evaluation.ofExcept result).start { activation with stack := stack } := by
        change (Evaluation.ofExcept (action activation.stack).1).start
          { activation with stack := (action activation.stack).2 } = _
        rw [acted]
      rw [started]
      cases result with
      | ok value => exact returns record activation value stack before acted
      | error error => exact stops record activation error stack before acted

/-- A handler takes over wherever the evaluation that it guards stops. -/
theorem Triple.tryCatch
    {evaluation : Evaluation α} {handler : Halt → Evaluation α}
    {post : Record → α → Activation → Prop} (stops : Record → Halt → Prop)
    (guarded : Triple ⟨rule.asks, stops⟩ pre evaluation post)
    (handled : ∀ halt,
      Triple rule (fun record _ => stops record halt) (handler halt) post) :
    Triple rule pre (MonadExcept.tryCatch evaluation handler) post := by
  intro record activation before
  rw [start_tryCatch, meets_bind]
  refine (guarded record activation before).mono (fun _ _ safe => safe) ?_
  rintro later ⟨result, after⟩ ended
  cases result with
  | ok value => exact ended
  | error halt => exact handled halt later after ended

/-! ## Rules of consequence -/

theorem Triple.weaken
    {evaluation : Evaluation α} {stronger : Record → Activation → Prop}
    {post weaker : Record → α → Activation → Prop}
    (triple : Triple rule pre evaluation post)
    (before : ∀ record activation, stronger record activation → pre record activation)
    (after : ∀ record value activation,
      post record value activation → weaker record value activation) :
    Triple rule stronger evaluation weaker := by
  intro record activation holds
  refine (triple record activation (before record activation holds)).mono
    (fun _ _ safe => safe) ?_
  rintro later ⟨result, ended⟩ outcome
  cases result with
  | ok value => exact after later value ended outcome
  | error halt => exact outcome

/-- A fact beside the assertion about the state may be assumed. -/
theorem Triple.given
    {evaluation : Evaluation α} {post : Record → α → Activation → Prop} {fact : Prop}
    (triple : fact → Triple rule pre evaluation post) :
    Triple rule (fun record activation => pre record activation ∧ fact) evaluation post :=
  fun record activation before => triple before.2 record activation before.1

theorem Triple.strengthenPre
    {evaluation : Evaluation α} {stronger : Record → Activation → Prop}
    {post : Record → α → Activation → Prop}
    (triple : Triple rule pre evaluation post)
    (before : ∀ record activation, stronger record activation → pre record activation) :
    Triple rule stronger evaluation post :=
  triple.weaken before fun _ _ _ holds => holds

/--
What a triple says may be joined with the course that the evaluation took: the exchanges that
it added to the record, at the end of which it returned.
-/
theorem Triple.course
    {evaluation : Evaluation α} {post : Record → α → Activation → Prop}
    (triple : Triple rule pre evaluation post) :
    Triple rule pre evaluation fun record value after =>
      post record value after ∧
        ∃ earlier activation added, pre earlier activation ∧ record = earlier ++ added ∧
          (evaluation.start activation).Ends added (.ok value, after) := by
  intro record activation before
  have whole := (meets_iff _ _).1 (triple record activation before)
  refine (meets_iff _ _).2 ⟨whole.1, ?_⟩
  rintro added ⟨result, after⟩ ends
  cases result with
  | ok value =>
      exact ⟨whole.2 added _ ends, record, activation, added, before, rfl, ends⟩
  | error halt => exact whole.2 added _ ends

/-- A fact about a record that further exchanges do not change. -/
def Lasting (fact : Record → Prop) : Prop :=
  ∀ record added, fact record → fact (record ++ added)

/-- A lasting fact may be carried over any evaluation. -/
theorem Triple.frame
    {evaluation : Evaluation α} {post : Record → α → Activation → Prop}
    {fact : Record → Prop} (lasting : Lasting fact)
    (triple : Triple rule pre evaluation post) :
    Triple rule (fun record activation => pre record activation ∧ fact record) evaluation
      fun record value activation => post record value activation ∧ fact record := by
  rintro record activation ⟨before, known⟩
  have whole := (meets_iff _ _).1 (triple record activation before)
  refine (meets_iff _ _).2 ⟨whole.1, ?_⟩
  rintro added ⟨result, after⟩ ends
  cases result with
  | ok value => exact ⟨whole.2 added _ ends, lasting record added known⟩
  | error halt => exact whole.2 added _ ends

theorem lasting_mem (exchange : Exchange Inquiry.Answer) :
    Lasting fun record => exchange ∈ record :=
  fun _ _ member => List.mem_append_left _ member

end Evaluation

end FrameEval
