import FrameEval.Wire.Reader
import FrameEval.Wire.Writer

/-!
# Events

The target reports what happens to its threads in sets of events, each set with the policy
by which it suspended threads.  Ten kinds of events are known.  The size of an event of
another kind is unknown, so the first one ends the reading of its set and stands for all
that follow.
-/

namespace FrameEval.Wire

/-- Which threads the target suspended. -/
inductive SuspendPolicy where
  | none
  | eventThread
  | all
  deriving DecidableEq

namespace SuspendPolicy

def byte : SuspendPolicy → UInt8
  | none => 0
  | eventThread => 1
  | all => 2

def ofByte? (byte : UInt8) : Option SuspendPolicy :=
  if byte = 0 then some none
  else if byte = 1 then some eventThread
  else if byte = 2 then some all
  else Option.none

@[simp]
theorem ofByte?_byte (policy : SuspendPolicy) : ofByte? policy.byte = some policy := by
  cases policy <;> rfl

def name : SuspendPolicy → String
  | none => "None"
  | eventThread => "EventThread"
  | all => "All"

end SuspendPolicy

/-- What happened. -/
inductive Occurrence where
  | vmStart (thread : ThreadId)
  | vmDeath
  | threadStart (thread : ThreadId)
  | threadDeath (thread : ThreadId)
  | classPrepare (thread : ThreadId) (type : TypeId) (signature : String) (status : Int32)
  | breakpoint (thread : ThreadId) (location : Location)
  | step (thread : ThreadId) (location : Location)
  /-- An exception; without a location at which it will be caught it is uncaught. -/
  | exception (thread : ThreadId) (location : Location) (exception : ObjectId)
      (caughtAt : Option Location)
  | methodEntry (thread : ThreadId) (location : Location)
  | methodExit (thread : ThreadId) (location : Location)
  | unknown (kind : UInt8)
  deriving DecidableEq

namespace Occurrence

/-- The thread to which it happened. -/
def thread? : Occurrence → Option ThreadId
  | vmStart thread => some thread
  | vmDeath => none
  | threadStart thread => some thread
  | threadDeath thread => some thread
  | classPrepare thread _ _ _ => some thread
  | breakpoint thread _ => some thread
  | step thread _ => some thread
  | exception thread _ _ _ => some thread
  | methodEntry thread _ => some thread
  | methodExit thread _ => some thread
  | unknown _ => none

/-- The kind byte of an occurrence. -/
def kind : Occurrence → UInt8
  | vmStart _ => 90
  | vmDeath => 99
  | threadStart _ => 6
  | threadDeath _ => 7
  | classPrepare _ _ _ _ => 8
  | breakpoint _ _ => 2
  | step _ _ => 1
  | exception _ _ _ _ => 4
  | methodEntry _ _ => 40
  | methodExit _ _ => 41
  | unknown kind => kind

end Occurrence

/-- One event of a set. -/
structure Event where
  kind : UInt8
  /-- The request that asked for the event. -/
  requestId : Int32
  details : Occurrence
  deriving DecidableEq

/-- What the target reports at once. -/
structure EventSet where
  policy : SuspendPolicy
  events : List Event
  deriving DecidableEq

/-- The threads of the events of a set, in order, repeated as they occur. -/
def EventSet.threads (set : EventSet) : List ThreadId :=
  set.events.filterMap fun event => event.details.thread?

namespace Reader

/-- A thread and a location. -/
def threadAndLocation : Reader (ThreadId × Location) := do
  let thread ← uint64
  let location ← location
  return (thread, location)

/-- The payload of an event of a known kind; nothing is read for another kind. -/
def occurrence (kind : UInt8) : Reader (Option Occurrence) :=
  if kind = 2 then do
    let (thread, location) ← threadAndLocation
    return some (.breakpoint thread location)
  else if kind = 1 then do
    let (thread, location) ← threadAndLocation
    return some (.step thread location)
  else if kind = 4 then do
    let (thread, location) ← threadAndLocation
    let (_, exception) ← taggedObject
    let caught ← Reader.location
    let caughtAt := if caught.classId = 0 ∧ caught.methodId = 0 then none else some caught
    return some (.exception thread location exception caughtAt)
  else if kind = 40 then do
    let (thread, location) ← threadAndLocation
    return some (.methodEntry thread location)
  else if kind = 41 then do
    let (thread, location) ← threadAndLocation
    return some (.methodExit thread location)
  else if kind = 8 then do
    let thread ← uint64
    let _ ← uint8
    let type ← uint64
    let signature ← text
    let status ← int32
    return some (.classPrepare thread type signature status)
  else if kind = 90 then do return some (.vmStart (← uint64))
  else if kind = 99 then return some .vmDeath
  else if kind = 6 then do return some (.threadStart (← uint64))
  else if kind = 7 then do return some (.threadDeath (← uint64))
  else return none

/-- At most so many events; one of an unknown kind is the last.  As for every list, reserving room
for as many as announced is left out. -/
def events : Nat → Reader (List Event)
  | 0 => return []
  | count + 1 => do
      let kind ← uint8
      let requestId ← int32
      match ← occurrence kind with
      | some details => do
          let later ← events count
          return ⟨kind, requestId, details⟩ :: later
      | none => return [⟨kind, requestId, .unknown kind⟩]

/-- A set of events. -/
def eventSet : Reader EventSet := do
  let byte ← uint8
  match SuspendPolicy.ofByte? byte with
  | none => fail s!"Invalid suspend policy: {byte.toNat}"
  | some policy => do
      let count ← int32
      let events ← events count.toInt.toNat
      return ⟨policy, events⟩

end Reader

/-- The set of events that the payload of a packet holds, whatever follows it. -/
def EventSet.ofBytes (payload : Bytes) : Except ClientError EventSet :=
  Reader.eventSet.run payload

namespace Writer

/-- The payload of an event. -/
def occurrence : Occurrence → Bytes
  | .vmStart thread => uint64 thread
  | .vmDeath => []
  | .threadStart thread => uint64 thread
  | .threadDeath thread => uint64 thread
  | .classPrepare thread type signature status =>
      uint64 thread ++ uint8 1 ++ uint64 type ++ text signature ++ int32 status
  | .breakpoint thread location => uint64 thread ++ Writer.location location
  | .step thread location => uint64 thread ++ Writer.location location
  | .exception thread location exception caughtAt =>
      uint64 thread ++ Writer.location location ++ uint8 ObjectKind.object.tag ++
        uint64 exception ++ Writer.location (caughtAt.getD ⟨0, 0, 0, 0⟩)
  | .methodEntry thread location => uint64 thread ++ Writer.location location
  | .methodExit thread location => uint64 thread ++ Writer.location location
  | .unknown _ => []

/-- One event: its kind, its request and its payload. -/
def event (event : Event) : Bytes :=
  uint8 event.kind ++ int32 event.requestId ++ occurrence event.details

/-- A set of events: its policy, their number and the events. -/
def eventSet (set : EventSet) : Bytes :=
  uint8 set.policy.byte ++ count set.events.length ++ (set.events.map event).flatten

end Writer

end FrameEval.Wire
