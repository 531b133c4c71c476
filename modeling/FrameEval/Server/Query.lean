import FrameEval.Link.Waits
import FrameEval.Remote.Errand
import FrameEval.Server.SessionTable
import FrameEval.Session.Binding

/-!
# What a server asks of its surroundings

The handling of a request is a dialogue.  It connects to targets, makes calls over links,
works on the session table, reserves threads and asks whether it was cancelled.  An action
that may have to wait can be asked for so that a cancellation ends the wait; the answer is
then missing.
-/

namespace FrameEval.Server

open Wire

/-- A link that the surroundings keep. -/
abbrev LinkId := Nat

/-- One thing that the handling of a request asks for. -/
inductive Action where
  /-- Connect to a target and greet it. -/
  | connect (host : String) (port : UInt16) (waits : Link.Waits)
  /-- The link is not used any more. -/
  | discard (link : LinkId)
  | overLink (link : LinkId) (request : Remote.Request)
  | onSessions (step : SessionTable.Step LinkId)
  /-- A name that no session has had. -/
  | freshSessionId
  /-- Wait until a thread of a target is free, and reserve it. -/
  | acquire (link : LinkId) (thread : ThreadId)
  /-- Give up a thread, or the wait for it. -/
  | release (link : LinkId) (thread : ThreadId)
  /-- Whether the request was cancelled. -/
  | isCancelled

namespace Action

/-- What each action answers. -/
@[reducible]
def Answer : Action → Type
  | connect _ _ _ => Except ClientError LinkId
  | discard _ => Unit
  | overLink _ request => request.Answer
  | onSessions step => step.Answer
  | freshSessionId => SessionId
  | acquire _ _ => Unit
  | release _ _ => Unit
  | isCancelled => Bool

/-- Whether an action may have to wait for others. -/
def waits : Action → Bool
  | overLink _ (.send _) => true
  | acquire _ _ => true
  | _ => false

end Action

/-- A question of the handling of a request. -/
inductive Query where
  | plain (action : Action)
  /-- A cancellation ends the wait for the action, which then has no answer. -/
  | interruptible (action : Action)

@[reducible]
def Query.Answer : Query → Type
  | plain action => action.Answer
  | interruptible action => Option action.Answer

/-- The handling of a request. -/
abbrev Handling (α : Type) := Dialogue Query Query.Answer α

namespace Handling

variable {α : Type}

/-- Ask for an action. -/
def act (action : Action) : Handling action.Answer :=
  Dialogue.query (Query.plain action)

/-- An operation on the session table. -/
def onSessions (operation : SessionTable.Operation LinkId α) : Handling α :=
  operation.substitute fun step => act (.onSessions step)

/-- An errand over a link. -/
def overLink (link : LinkId) (errand : Remote.Errand α) : Handling (Except Halt α) :=
  errand.run.substitute fun request => act (.overLink link request)

/-- Give up as soon as a wait is ended by a cancellation. -/
def unlessCancelled : Handling α → Handling (Option α)
  | .done result => .done (some result)
  | .ask (.plain action) next =>
      if action.waits then
        .ask (.interruptible action) fun answer =>
          match answer with
          | some answer => unlessCancelled (next answer)
          | none => .done none
      else .ask (.plain action) fun answer => unlessCancelled (next answer)
  | .ask (.interruptible action) next =>
      .ask (.interruptible action) fun answer => unlessCancelled (next answer)

end Handling

end FrameEval.Server
