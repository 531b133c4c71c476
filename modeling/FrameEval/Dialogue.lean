/-!
# Dialogues

A dialogue is a finite program that asks questions of its surroundings and goes on
with the answers.  What the surroundings are is left open: the same dialogue runs
against an in-memory target, against a wire connection, or against a list of answers
chosen by a proof.

`substitute` answers each question by a further dialogue at a lower level, and
`interpret` does so with a state; `converse` answers by effects; `run` answers from a
state and returns the final state; `transcript` is the list of questions a run asks.
-/

namespace FrameEval

/-- A program that asks questions and goes on with the answers. -/
inductive Dialogue (Query : Type) (Answer : Query → Type) (α : Type) where
  /-- The program is over. -/
  | done (result : α)
  /-- One question, and what follows each answer. -/
  | ask (query : Query) (next : Answer query → Dialogue Query Answer α)

namespace Dialogue

variable {Query Inner State α β : Type} {Answer : Query → Type} {Reply : Inner → Type}

/-- Run one dialogue, then the one that its result selects. -/
def bind :
    Dialogue Query Answer α → (α → Dialogue Query Answer β) → Dialogue Query Answer β
  | done result, onward => onward result
  | ask query next, onward => ask query fun answer => (next answer).bind onward

instance : Monad (Dialogue Query Answer) where
  pure := done
  bind := bind

/-- Ask one question and return its answer. -/
def query (question : Query) : Dialogue Query Answer (Answer question) :=
  ask question done

@[simp]
theorem pure_eq (result : α) : (pure result : Dialogue Query Answer α) = done result := rfl

@[simp]
theorem done_bind (result : α) (onward : α → Dialogue Query Answer β) :
    (done result >>= onward) = onward result := rfl

@[simp]
theorem ask_bind (question : Query) (next : Answer question → Dialogue Query Answer α)
    (onward : α → Dialogue Query Answer β) :
    (ask question next >>= onward) = ask question fun answer => next answer >>= onward := rfl

theorem bind_done (dialogue : Dialogue Query Answer α) :
    (dialogue >>= fun result => done result) = dialogue := by
  induction dialogue with
  | done result => rfl
  | ask question next ih => simp [ih]

theorem bind_assoc {γ : Type} (dialogue : Dialogue Query Answer α)
    (first : α → Dialogue Query Answer β) (second : β → Dialogue Query Answer γ) :
    ((dialogue >>= first) >>= second) = dialogue >>= fun result => first result >>= second := by
  induction dialogue with
  | done result => rfl
  | ask question next ih => simp [ih]

instance : LawfulMonad (Dialogue Query Answer) :=
  LawfulMonad.mk' (Dialogue Query Answer) bind_done (fun _ _ => rfl) bind_assoc

/-- Answer every question by a dialogue at a lower level, which carries a state. -/
def interpret
    (handler : (question : Query) → State → Dialogue Inner Reply (Answer question × State)) :
    Dialogue Query Answer α → State → Dialogue Inner Reply (α × State)
  | done result, state => done (result, state)
  | ask question next, state =>
      (handler question state).bind fun answered =>
        (next answered.1).interpret handler answered.2

/-- Answer every question by a further dialogue at a lower level. -/
def substitute
    (handler : (question : Query) → Dialogue Inner Reply (Answer question)) :
    Dialogue Query Answer α → Dialogue Inner Reply α
  | done result => done result
  | ask question next => (handler question).bind fun answer => (next answer).substitute handler

/-- Answer every question by an effect. -/
def converse {Effect : Type → Type} [Monad Effect]
    (handler : (question : Query) → Effect (Answer question)) :
    Dialogue Query Answer α → Effect α
  | done result => pure result
  | ask question next => do (next (← handler question)).converse handler

/-- Answer every question from a state. -/
def run (handler : (question : Query) → State → Answer question × State) :
    Dialogue Query Answer α → State → α × State
  | done result, state => (result, state)
  | ask question next, state =>
      (next (handler question state).1).run handler (handler question state).2

/-- The questions of a run, each with its answer, in order. -/
def transcript (handler : (question : Query) → State → Answer question × State) :
    Dialogue Query Answer α → State → List ((question : Query) × Answer question)
  | done _, _ => []
  | ask question next, state =>
      ⟨question, (handler question state).1⟩ ::
        (next (handler question state).1).transcript handler (handler question state).2

@[simp]
theorem run_done (handler : (question : Query) → State → Answer question × State)
    (result : α) (state : State) :
    (done result : Dialogue Query Answer α).run handler state = (result, state) := rfl

theorem run_bind (handler : (question : Query) → State → Answer question × State)
    (dialogue : Dialogue Query Answer α) (onward : α → Dialogue Query Answer β)
    (state : State) :
    (dialogue >>= onward).run handler state =
      (onward (dialogue.run handler state).1).run handler (dialogue.run handler state).2 := by
  induction dialogue generalizing state with
  | done result => rfl
  | ask question next ih => exact ih _ _

theorem transcript_bind (handler : (question : Query) → State → Answer question × State)
    (dialogue : Dialogue Query Answer α) (onward : α → Dialogue Query Answer β)
    (state : State) :
    (dialogue >>= onward).transcript handler state =
      dialogue.transcript handler state ++
        (onward (dialogue.run handler state).1).transcript handler
          (dialogue.run handler state).2 := by
  induction dialogue generalizing state with
  | done result => rfl
  | ask question next ih => exact congrArg (List.cons _) (ih _ _)

end Dialogue

end FrameEval
