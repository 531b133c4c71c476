import FrameEval.Server.Handler
import FrameEval.Server.InFlight

/-!
# Dispatching lines

Lines are read one after another, and every request becomes a job of its own.  A job starts
at some later time, when it gets its token, and is over at some later time still, when its
response is sent.  Which job starts or ends next is decided elsewhere; `step` says what each
of these happenings does.
-/

namespace FrameEval.Server

/-- A request that has no response yet. -/
structure Job where
  number : Nat
  request : Request
  /-- The token of a job that has started. -/
  token : Option Token

/-- The state of the dispatch. -/
structure Dispatcher where
  inFlight : InFlight
  jobs : List Job
  nextNumber : Nat
  /-- The responses that were sent, the oldest first. -/
  sent : List Response

namespace Dispatcher

def empty : Dispatcher := ⟨.empty, [], 0, []⟩

/-- What happens to the dispatch. -/
inductive Happening where
  | line (line : String)
  /-- The handling of a job starts. -/
  | start (number : Nat)
  /-- The handling of a job is over. -/
  | finish (number : Nat) (result : Except Refusal Json)

/-- The job of a given number. -/
def job? (dispatcher : Dispatcher) (number : Nat) : Option Job :=
  dispatcher.jobs.find? fun job => job.number = number

/-- Send a response. -/
def send (response : Response) (dispatcher : Dispatcher) : Dispatcher :=
  { dispatcher with sent := dispatcher.sent ++ [response] }

/-- A message is read. -/
def message (message : Message) (dispatcher : Dispatcher) : Dispatcher :=
  match message with
  | .unparsable => dispatcher.send (.anonymous .parseError)
  | .invalidRequest => dispatcher.send (.anonymous .invalidRequest)
  | .ignored => dispatcher
  | .notification notification =>
      match cancelledId? notification with
      | some id => { dispatcher with inFlight := dispatcher.inFlight.cancel id }
      | none => dispatcher
  | .request request =>
      { dispatcher with
        jobs := dispatcher.jobs ++ [⟨dispatcher.nextNumber, request, none⟩]
        nextNumber := dispatcher.nextNumber + 1 }

/-- A job that was not started starts. -/
def start (number : Nat) (dispatcher : Dispatcher) : Dispatcher :=
  match dispatcher.job? number with
  | some ⟨_, request, none⟩ =>
      let (token, inFlight) := dispatcher.inFlight.start request.id
      let begun (job : Job) : Job :=
        if job.number = number then { job with token := some token } else job
      { dispatcher with inFlight := inFlight, jobs := dispatcher.jobs.map begun }
  | _ => dispatcher

/-- A job that was started is over. -/
def finish (number : Nat) (result : Except Refusal Json) (dispatcher : Dispatcher) :
    Dispatcher :=
  match dispatcher.job? number with
  | some ⟨_, request, some _⟩ =>
      { dispatcher with
        inFlight := dispatcher.inFlight.finish request.id
        jobs := dispatcher.jobs.filter fun job => job.number ≠ number }.send
          ⟨request.id, result⟩
  | _ => dispatcher

/-- What a happening does. -/
def step (dispatcher : Dispatcher) : Happening → Dispatcher
  | .line line => dispatcher.message (.ofLine line)
  | .start number => dispatcher.start number
  | .finish number result => dispatcher.finish number result

/-- What happenings do, one after another. -/
def run (dispatcher : Dispatcher) (happenings : List Happening) : Dispatcher :=
  happenings.foldl step dispatcher

end Dispatcher

end FrameEval.Server
