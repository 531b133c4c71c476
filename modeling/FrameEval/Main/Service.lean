import FrameEval.Main.Connection
import FrameEval.Server.Dispatcher
import FrameEval.Session.ThreadTable
import FrameEval.Text.Numeral
import Std.Sync.Mutex
import Std.Time.DateTime.Timestamp

/-!
# Serving requests side by side

Every request is handled on a thread of its own, so a long evaluation never blocks the
notification that cancels it.  What the threads share is behind one lock, which nobody keeps
while waiting for a target.
-/

namespace FrameEval.Main

open Server Wire

/-- What the threads of a service share. -/
structure Shared where
  dispatcher : Dispatcher
  sessions : SessionTable LinkId
  threads : Table LinkId (Session.ThreadTable Token)
  links : Table LinkId Connection
  nextLink : LinkId
  /-- The links to be ended, each with the jobs that may still use it. -/
  leaving : List (LinkId × List Nat)
  /-- The signal that cancels each request that is being handled. -/
  signals : Table Token (IO.Promise Unit)

/-- A running service. -/
structure Service where
  output : IO.FS.Stream
  setup : Setup
  shared : Std.Mutex Shared
  /-- Signalled when a thread is given up or a request is cancelled. -/
  changed : Std.Condvar
  sessionCount : IO.Ref Nat

/-- A request that is being handled. -/
structure Work where
  number : Nat
  token : Token
  request : Request
  cancelled : IO.Promise Unit

namespace Service

/-- A service that has seen nothing. -/
def fresh (output : IO.FS.Stream) (setup : Setup) : IO Service := do
  let shared ← Std.Mutex.new ⟨.empty, .empty, .empty, .empty, 0, [], .empty⟩
  return ⟨output, setup, shared, ← Std.Condvar.new, ← IO.mkRef 1⟩

/-- Do something with what the threads share. -/
def withShared {α : Type} (service : Service) (action : StateT Shared IO α) : IO α :=
  service.shared.atomically do
    let (result, shared) ← action.run (← get)
    set shared
    return result

/-- Write the responses that were sent. -/
def flush (service : Service) : StateT Shared IO Unit := do
  for response in (← get).dispatcher.sent do
    service.output.putStrLn response.text
  service.output.flush
  modify fun shared => { shared with dispatcher.sent := [] }

/-- End the links that no job uses any more. -/
def endLinks : StateT Shared IO Unit := do
  let (ended, leaving) := (← get).leaving.partition fun entry => entry.2.isEmpty
  for (link, _) in ended do
    if let some connection := (← get).links.find? link then
      connection.finish
  modify fun shared =>
    { shared with
      leaving := leaving
      links := ended.foldl (fun links entry => links.erase entry.1) shared.links }

/-- Change the reserved threads of a target. -/
def onThreads (service : Service) (link : LinkId)
    (change : Session.ThreadTable Token → Session.ThreadTable Token) : IO Unit := do
  service.withShared do
    modify fun shared =>
      let threads := change ((shared.threads.find? link).getD .empty)
      { shared with threads := shared.threads.insert link threads }
  service.changed.notifyAll

/-- Wait until a request holds a thread, or, if that ends the wait, until it is cancelled. -/
def hold (service : Service) (work : Work) (interruptible : Bool) (link : LinkId)
    (thread : ThreadId) : IO (Option Unit) := do
  service.onThreads link (·.acquire thread work.token)
  let holds (shared : Shared) : Bool :=
    ((shared.threads.find? link).getD .empty).holder? thread = some work.token
  let givesUp (shared : Shared) : Bool :=
    interruptible && shared.dispatcher.inFlight.isCancelled work.token
  service.shared.atomicallyOnce service.changed
    (do return holds (← get) || givesUp (← get))
    (do return if givesUp (← get) then none else some ())

/-- Connect to a target, and keep the link. -/
def connect (service : Service) (host : String) (port : UInt16) (waits : Link.Waits) :
    IO (Except ClientError LinkId) := do
  match ← (Connection.connect host port waits).run with
  | .error error => return .error error
  | .ok connection => service.withShared do
      let link := (← get).nextLink
      modify fun shared =>
        { shared with links := shared.links.insert link connection, nextLink := link + 1 }
      return .ok link

/-- A name that no session has had: the time in milliseconds, then a count. -/
def freshSessionId (service : Service) : IO SessionId := do
  let count ← service.sessionCount.modifyGet fun count => (count, count + 1)
  let now ← Std.Time.Timestamp.now
  let milliseconds := now.toMillisecondsSinceUnixEpoch.toInt.toNat
  return s!"session_{Text.hex milliseconds}{Text.hex count}"

/-- The answer of a link that has ended. -/
def ended : (request : Remote.Request) → request.Answer
  | .send _ => .error .connectionClosed
  | .enter _ => ()
  | .leave _ => ()
  | .lookUp _ => none
  | .remember _ _ => ()

/-- The answer to an action of a request, unless a cancellation ends the wait for it. -/
def act (service : Service) (work : Work) (interruptible : Bool) :
    (action : Action) → IO (Option action.Answer)
  | .connect host port waits => some <$> service.connect host port waits
  | .discard link => some <$> service.withShared do
      modify fun shared =>
        let users := shared.dispatcher.jobs.map Job.number
        { shared with leaving := (link, users) :: shared.leaving }
  | .overLink link request => do
      match (← service.withShared get).links.find? link with
      | none => return some (ended request)
      | some connection =>
          let interruptions := if interruptible then [work.cancelled.result!] else []
          connection.answer interruptions request
  | .onSessions step => some <$> service.withShared do
      let (answer, sessions) := (← get).sessions.apply step
      modify fun shared => { shared with sessions := sessions }
      return answer
  | .freshSessionId => some <$> service.freshSessionId
  | .acquire link thread => service.hold work interruptible link thread
  | .release link thread => some <$> service.onThreads link (·.release thread work.token)
  | .isCancelled => do
      return some ((← service.withShared get).dispatcher.inFlight.isCancelled work.token)

/-- The answer to an action whose wait nothing ends. -/
def insist (service : Service) (work : Work) (action : Action) : IO action.Answer := do
  match ← service.act work false action with
  | some answer => return answer
  | none => throw (.userError "a wait that cannot be interrupted was interrupted")

/-- The answer to a question of a request. -/
def answer (service : Service) (work : Work) : (query : Query) → IO query.Answer
  | .plain action => service.insist work action
  | .interruptible action => do
      if (← service.withShared get).dispatcher.inFlight.isCancelled work.token then return none
      else service.act work true action

/-- A job starts. -/
def start (number : Nat) : StateT Shared IO (Option Work) := do
  modify fun shared => { shared with dispatcher := shared.dispatcher.step (.start number) }
  match (← get).dispatcher.job? number with
  | some ⟨_, request, some token⟩ => do
      let cancelled ← IO.Promise.new
      modify fun shared => { shared with signals := shared.signals.insert token cancelled }
      return some ⟨number, token, request, cancelled⟩
  | _ => return none

/-- A job is over. -/
def finish (service : Service) (work : Work) (result : Except Refusal Json) :
    StateT Shared IO Unit := do
  modify fun shared =>
    { shared with
      dispatcher := shared.dispatcher.step (.finish work.number result)
      leaving := shared.leaving.map fun (link, jobs) => (link, jobs.erase work.number)
      signals := shared.signals.erase work.token }
  endLinks
  service.flush

/-- Do a job from its start to its end. -/
def perform (service : Service) (number : Nat) : IO Unit := do
  if let some work ← service.withShared (start number) then
    if let some result ← (handle service.setup work.request).converse (service.answer work) then
      service.withShared (service.finish work result)

/-- Signal the cancellation of those requests that were cancelled. -/
def signal (service : Service) : StateT Shared IO Unit := do
  for token in (← get).dispatcher.inFlight.cancelled do
    if let some cancelled := (← get).signals.find? token then
      cancelled.resolve ()
  service.changed.notifyAll

/-- Read a line; the task is the job that it makes. -/
def line (service : Service) (line : String) : IO (Option (Task (Except IO.Error Unit))) := do
  let (first, next) ← service.withShared do
    let first := (← get).dispatcher.nextNumber
    modify fun shared => { shared with dispatcher := shared.dispatcher.step (.line line) }
    service.flush
    service.signal
    return (first, (← get).dispatcher.nextNumber)
  if first = next then return none
  else return some (← IO.asTask (service.perform first) .dedicated)

/-- End every link. -/
def shutdown (service : Service) : IO Unit := do
  for connection in (← service.withShared get).links.values do
    connection.finish

end Service

end FrameEval.Main
