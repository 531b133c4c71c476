import FrameEval.Proofs.Remote.Scopes

/-!
# Calls inside and outside of a scope

An errand that makes an invocation asks for other things as well: the type of an array that was
returned.  `Orderly` says which of its calls fall into the scope on its thread: those for which the
target runs code, and no other.  It says too that the scope is left before the errand is over.
-/

namespace FrameEval.Remote

open Wire

section

variable {α β : Type} {thread : ThreadId}

/-- What is left of an errand that holds some scopes on its thread: it has the target run code only
while it holds one, it calls for anything else only while it holds none, and it ends without. -/
inductive Orderly (thread : ThreadId) :
    List ThreadId → Dialogue Request Request.Answer α → Prop where
  | done (result : α) : Orderly thread [] (.done result)
  | enter
      {next : Unit → Dialogue Request Request.Answer α}
      (onward : Orderly thread [thread] (next ())) : Orderly thread [] (.ask (.enter thread) next)
  | invoke
      {order : Order} {next : Except ClientError Reply → Dialogue Request Request.Answer α}
      (runs : order.patience = .invocation)
      (onward : ∀ result, Orderly thread [thread] (next result)) :
      Orderly thread [thread] (.ask (.send order) next)
  | leave
      {next : Unit → Dialogue Request Request.Answer α} (onward : Orderly thread [] (next ())) :
      Orderly thread [thread] (.ask (.leave thread) next)
  | query
      {order : Order} {next : Except ClientError Reply → Dialogue Request Request.Answer α}
      (rests : order.patience = .ordinary) (onward : ∀ result, Orderly thread [] (next result)) :
      Orderly thread [] (.ask (.send order) next)

namespace Orderly

section

variable {held : List ThreadId}

theorem entering
    {entered : ThreadId} {next : Unit → Dialogue Request Request.Answer α}
    (orderly : Orderly thread held (.ask (.enter entered) next)) :
    entered = thread ∧ held = [] ∧ Orderly thread [thread] (next ()) := by
  cases orderly with
  | enter onward => exact ⟨rfl, rfl, onward⟩

theorem leaving
    {left : ThreadId} {next : Unit → Dialogue Request Request.Answer α}
    (orderly : Orderly thread held (.ask (.leave left) next)) :
    left = thread ∧ held = [thread] ∧ Orderly thread [] (next ()) := by
  cases orderly with
  | leave onward => exact ⟨rfl, rfl, onward⟩

/-- The result of a command does not change the scopes. -/
theorem told
    {order : Order} {next : Except ClientError Reply → Dialogue Request Request.Answer α}
    (orderly : Orderly thread held (.ask (.send order) next))
    (result : Except ClientError Reply) : Orderly thread held (next result) := by
  cases orderly with
  | invoke _ onward => exact onward result
  | query _ onward => exact onward result

/-- The scopes tell whether the target runs code for a command. -/
theorem sending
    {order : Order} {next : Except ClientError Reply → Dialogue Request Request.Answer α}
    (orderly : Orderly thread held (.ask (.send order) next)) :
    held = [thread] ∧ order.patience = .invocation ∨ held = [] ∧ order.patience = .ordinary := by
  cases orderly with
  | invoke runs _ => exact .inl ⟨rfl, runs⟩
  | query rests _ => exact .inr ⟨rfl, rests⟩

theorem held_eq_nil
    {outcome : α} (orderly : Orderly thread held (.done outcome)) : held = [] := by
  cases orderly with
  | done => rfl

end

/-- A dialogue goes on without a scope where another one is over. -/
theorem append
    {held : List ThreadId} {dialogue : Dialogue Request Request.Answer α}
    {onward : α → Dialogue Request Request.Answer β} (orderly : Orderly thread held dialogue)
    (rest : ∀ result, Orderly thread [] (onward result)) :
    Orderly thread held (dialogue >>= onward) := by
  induction orderly with
  | done result => exact rest result
  | enter _ ih => exact .enter ih
  | invoke runs _ ih => exact .invoke runs ih
  | leave _ ih => exact .leave ih
  | query rests _ ih => exact .query rests ih

theorem bind
    {held : List ThreadId} {errand : Errand α} {onward : α → Errand β}
    (orderly : Orderly thread held errand.run)
    (rest : ∀ value, Orderly thread [] (onward value).run) :
    Orderly thread held (errand >>= onward).run := by
  rw [ExceptT.run_bind]
  apply orderly.append
  intro result
  cases result with
  | ok value => exact rest value
  | error halt => exact .done _

end Orderly

/-- A call is one command, and then what is made of the result of that. -/
theorem Errand.run_call (call : Call α) :
    (Errand.call call).run =
      .ask (.send call.order) fun result =>
        .done ((result.bind call.conclude).mapError fun error => .failed error.toEvalError) := by
  have sent : (Errand.attempt call).run =
      .ask (.send call.order) fun result => .done (.ok (result.bind call.conclude)) := rfl
  rw [Errand.call, ExceptT.run_bind, sent, Dialogue.ask_bind]
  refine congrArg (Dialogue.ask (Request.send call.order)) (funext fun result => ?_)
  rw [Dialogue.done_bind]
  cases result.bind call.conclude with
  | ok value => rfl
  | error error => rfl

namespace Orderly

theorem call
    {call : Call α} (rests : call.order.patience = .ordinary) :
    Orderly thread [] (Errand.call call).run := by
  rw [Errand.run_call]
  exact .query rests fun _ => .done _

theorem ofExcept (result : Except EvalError α) :
    Orderly thread [] (Errand.ofExcept result).run := by
  cases result with
  | ok value => exact .done _
  | error error => exact .done _

theorem classified (value : Wire.Value) : Orderly thread [] (Errand.classified value).run := by
  rw [Errand.classified]
  apply bind (ofExcept _)
  intro known
  cases known with
  | known value => exact .done _
  | arrayOf id =>
      apply bind (call rfl)
      intro typed
      apply bind (call rfl)
      intro signature
      apply bind (ofExcept _)
      intro array
      exact .done _

theorem outcome (reply : InvocationReply) : Orderly thread [] (Errand.outcome reply).run := by
  rw [Errand.outcome]
  split
  · exact .done _
  · apply bind (classified _)
    intro value
    exact .done _

/-- A call that has the target run code is made within a scope. -/
theorem invoking_call
    {call : Call α} (runs : call.order.patience = .invocation) :
    Orderly thread [] (Errand.invoking thread (Errand.call call)).run := by
  have made : (Errand.invoking thread (Errand.call call)).run =
      .ask (.enter thread) fun _ =>
        (Errand.call call).run >>= fun result => .ask (.leave thread) fun _ => .done result := rfl
  rw [made, Errand.run_call]
  exact .enter (.invoke runs fun _ => .leave (.done _))

/-- What is refused is refused within a scope as well. -/
theorem invoking_fail (error : EvalError) :
    Orderly thread [] (Errand.invoking thread (Errand.fail error : Errand α)).run :=
  .enter (.leave (.done _))

end Orderly

end

/-- An invocation is made within a scope on its thread.  What came back is looked at after that. -/
theorem Invokes.orderly
    {usage : Usage} {thread : ThreadId} {errand : Errand InvokeOutcome}
    (invokes : Invokes usage thread errand) : Orderly thread [] errand.run := by
  cases invokes with
  | method receiver method arguments =>
      dsimp only [Errand.invoke]
      apply Orderly.bind _ fun reply => Orderly.outcome reply
      split
      · exact Orderly.invoking_call rfl
      · split
        · exact Orderly.invoking_fail _
        · exact Orderly.invoking_call rfl
  | constructor constructor arguments =>
      exact Orderly.bind (Orderly.invoking_call rfl) fun reply => Orderly.outcome reply

end FrameEval.Remote
