import FrameEval.Server.Dispatcher
import FrameEval.Session.ThreadTable

/-!
# Serving one line after another

A host keeps the tables that requests share and handles each request to its end before it
reads the next line.  Connections and everything behind them belong to the surroundings.
-/

namespace FrameEval.Server

open Wire

/-- How the world outside answers. -/
structure Surroundings (World : Type) where
  connect : String → UInt16 → Link.Waits → World → Except ClientError LinkId × World
  discard : LinkId → World → World
  overLink : LinkId → (request : Remote.Request) → World → request.Answer × World
  freshSessionId : World → SessionId × World

/-- What a server keeps. -/
structure Host (World : Type) where
  dispatcher : Dispatcher
  sessions : SessionTable LinkId
  /-- The reserved threads of each target, by the tokens of the requests that want them. -/
  threads : Table LinkId (Session.ThreadTable Token)
  world : World

namespace Host

variable {World : Type}

def fresh (world : World) : Host World := ⟨.empty, .empty, .empty, world⟩

/-- The reserved threads of a target. -/
def threadsOf (host : Host World) (link : LinkId) : Session.ThreadTable Token :=
  (host.threads.find? link).getD .empty

/-- Change the reserved threads of a target. -/
def onThreads (link : LinkId) (change : Session.ThreadTable Token → Session.ThreadTable Token)
    (host : Host World) : Host World :=
  { host with threads := host.threads.insert link (change (host.threadsOf link)) }

/-- The answer to an action of the request that has a token. -/
def act (surroundings : Surroundings World) (token : Token) :
    (action : Action) → Host World → action.Answer × Host World
  | .connect address port waits, host =>
      let (link, world) := surroundings.connect address port waits host.world
      (link, { host with world := world })
  | .discard link, host => ((), { host with world := surroundings.discard link host.world })
  | .overLink link request, host =>
      let (answer, world) := surroundings.overLink link request host.world
      (answer, { host with world := world })
  | .onSessions step, host =>
      let (answer, sessions) := host.sessions.apply step
      (answer, { host with sessions := sessions })
  | .freshSessionId, host =>
      let (id, world) := surroundings.freshSessionId host.world
      (id, { host with world := world })
  | .acquire link thread, host => ((), host.onThreads link (·.acquire thread token))
  | .release link thread, host => ((), host.onThreads link (·.release thread token))
  | .isCancelled, host => (host.dispatcher.inFlight.isCancelled token, host)

/-- The answer to a question of the request that has a token. -/
def answer (surroundings : Surroundings World) (token : Token) :
    (query : Query) → Host World → query.Answer × Host World
  | .plain action, host => act surroundings token action host
  | .interruptible action, host =>
      if host.dispatcher.inFlight.isCancelled token then (none, host)
      else
        let (answer, host) := act surroundings token action host
        (some answer, host)

/-- Handle the job of a given number from its start to its end. -/
def handleJob (surroundings : Surroundings World) (setup : Setup) (number : Nat)
    (host : Host World) : Host World :=
  let host := { host with dispatcher := host.dispatcher.start number }
  match host.dispatcher.job? number with
  | some ⟨_, request, some token⟩ =>
      let (result, host) := (handle setup request).run (answer surroundings token) host
      match result with
      | some result => { host with dispatcher := host.dispatcher.finish number result }
      | none => host
  | _ => host

/-- Read a line, and handle the request that it may hold. -/
def line (surroundings : Surroundings World) (setup : Setup) (line : String)
    (host : Host World) : Host World :=
  let number := host.dispatcher.nextNumber
  let host := { host with dispatcher := host.dispatcher.step (.line line) }
  handleJob surroundings setup number host

end Host

end FrameEval.Server
