import FrameEval.Remote.Answer

/-!
# The scope of an invocation

An errand that invokes a method marks its thread, makes the call, and takes the mark away
before it looks at what came back.  `Invocation` is this course: the mark on the thread comes
first, `Inside` it only other requests are made until the mark is taken away, and after that
the errand is `Plain` and marks nothing any more.
-/

namespace FrameEval.Remote

open Wire

/-- Whether a request marks a thread or takes its mark away. -/
def Request.marks : Request → Bool
  | .enter _ => true
  | .leave _ => true
  | _ => false

section

variable {α β : Type}

/-- A dialogue that marks no thread. -/
inductive Plain : Dialogue Request Request.Answer α → Prop where
  | done (result : α) : Plain (.done result)
  | ask
      {request : Request} {next : request.Answer → Dialogue Request Request.Answer α}
      (silent : request.marks = false) (onward : ∀ answer, Plain (next answer)) :
      Plain (.ask request next)

/-- A dialogue that takes the mark of a thread away, and marks nothing before or after. -/
inductive Inside (thread : ThreadId) : Dialogue Request Request.Answer α → Prop where
  | ask
      {request : Request} {next : request.Answer → Dialogue Request Request.Answer α}
      (silent : request.marks = false) (onward : ∀ answer, Inside thread (next answer)) :
      Inside thread (.ask request next)
  | leave
      {next : Unit → Dialogue Request Request.Answer α} (onward : Plain (next ())) :
      Inside thread (.ask (.leave thread) next)

/-- A dialogue that marks a thread first and has one scope on it. -/
inductive Invocation (thread : ThreadId) : Dialogue Request Request.Answer α → Prop where
  | enter
      {next : Unit → Dialogue Request Request.Answer α} (onward : Inside thread (next ())) :
      Invocation thread (.ask (.enter thread) next)

namespace Plain

theorem append
    {dialogue : Dialogue Request Request.Answer α}
    {onward : α → Dialogue Request Request.Answer β} (plain : Plain dialogue)
    (rest : ∀ result, Plain (onward result)) : Plain (dialogue >>= onward) := by
  induction plain with
  | done result => exact rest result
  | ask silent _ ih => exact .ask silent ih

theorem bind
    {errand : Errand α} {onward : α → Errand β} (plain : Plain errand.run)
    (rest : ∀ value, Plain (onward value).run) : Plain (errand >>= onward).run := by
  rw [ExceptT.run_bind]
  apply plain.append
  intro result
  cases result with
  | ok value => exact rest value
  | error halt => exact .done _

theorem pure (value : α) : Plain (Pure.pure value : Errand α).run :=
  .done _

theorem fail (error : EvalError) : Plain (Errand.fail error : Errand α).run :=
  .done _

theorem ofExcept (result : Except EvalError α) : Plain (Errand.ofExcept result).run := by
  cases result with
  | ok value => exact pure value
  | error error => exact fail error

theorem query {request : Request} (silent : request.marks = false) :
    Plain (Errand.ask request).run :=
  .ask silent fun _ => .done _

theorem attempt (call : Call α) : Plain (Errand.attempt call).run :=
  bind (query rfl) fun _ => pure _

theorem call (call : Call α) : Plain (Errand.call call).run := by
  apply bind (attempt call)
  intro result
  cases result with
  | ok value => exact pure value
  | error error => exact fail _

theorem classified (value : Wire.Value) : Plain (Errand.classified value).run := by
  rw [Errand.classified]
  apply bind (ofExcept _)
  intro known
  cases known with
  | known value => exact pure _
  | arrayOf id =>
      apply bind (call _)
      intro typed
      apply bind (call _)
      intro signature
      apply bind (ofExcept _)
      intro array
      exact pure _

theorem outcome (reply : InvocationReply) : Plain (Errand.outcome reply).run := by
  rw [Errand.outcome]
  split
  · exact pure _
  · apply bind (classified _)
    intro value
    exact pure _

end Plain

theorem Plain.inside
    {thread : ThreadId} {dialogue : Dialogue Request Request.Answer α}
    {onward : α → Dialogue Request Request.Answer β} (plain : Plain dialogue)
    (leaves : ∀ result, Inside thread (onward result)) : Inside thread (dialogue >>= onward) := by
  induction plain with
  | done result => exact leaves result
  | ask silent _ ih => exact .ask silent ih

/-- A call within a scope, and then what is made of its result. -/
theorem invocation_bind
    {errand : Errand α} {onward : α → Errand β} (thread : ThreadId) (plain : Plain errand.run)
    (rest : ∀ value, Plain (onward value).run) :
    Invocation thread (Errand.invoking thread errand >>= onward).run := by
  rw [ExceptT.run_bind]
  apply Invocation.enter
  show Inside thread ((errand.run >>= fun result =>
    Dialogue.query (Request.leave thread) >>= fun _ => .done result) >>= _)
  rw [Dialogue.bind_assoc]
  apply plain.inside
  intro result
  apply Inside.leave
  cases result with
  | ok value => exact rest value
  | error halt => exact .done _

end

/-- A method is invoked within one scope on its thread. -/
theorem invocation_invoke
    (usage : Usage) (thread : ThreadId) (receiver : Option RemoteValue) (method : MethodRef)
    (arguments : List RemoteValue) :
    Invocation thread (Errand.invoke usage thread receiver method arguments).run := by
  dsimp only [Errand.invoke]
  apply invocation_bind thread _ fun reply => Plain.outcome reply
  split
  · exact Plain.call _
  · split
    · exact Plain.fail _
    · exact Plain.call _

/-- An object is constructed within one scope on its thread. -/
theorem invocation_newInstance
    (usage : Usage) (thread : ThreadId) (constructor : MethodRef) (arguments : List RemoteValue) :
    Invocation thread (Errand.newInstance usage thread constructor arguments).run :=
  invocation_bind thread (Plain.call _) fun reply => Plain.outcome reply

/-- The errands by which a target runs code on a thread. -/
inductive Invokes (usage : Usage) (thread : ThreadId) : Errand InvokeOutcome → Prop where
  | method (receiver : Option RemoteValue) (method : MethodRef) (arguments : List RemoteValue) :
      Invokes usage thread (Errand.invoke usage thread receiver method arguments)
  | constructor (constructor : MethodRef) (arguments : List RemoteValue) :
      Invokes usage thread (Errand.newInstance usage thread constructor arguments)

theorem Invokes.invocation
    {usage : Usage} {thread : ThreadId} {errand : Errand InvokeOutcome}
    (invokes : Invokes usage thread errand) : Invocation thread errand.run := by
  cases invokes with
  | method receiver method arguments =>
      exact invocation_invoke usage thread receiver method arguments
  | constructor constructor arguments =>
      exact invocation_newInstance usage thread constructor arguments

end FrameEval.Remote
