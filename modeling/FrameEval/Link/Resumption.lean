import FrameEval.Link.InvokingThreads
import FrameEval.Wire.Call.Target
import FrameEval.Wire.Call.Thread
import FrameEval.Wire.Event

/-!
# Undoing a suspension

The evaluated code may hit a breakpoint on the thread that runs it.  The target then
suspends threads as the policy of the event set says, and the invocation would never end.
Such a set is not reported; instead its suspension is undone by commands to the target.
-/

namespace FrameEval.Link

open Wire

/-- Whether every event of a set, and at least one, happened to a thread that runs an
invocation. -/
def arisesFromInvocation (invoking : InvokingThreads) (set : EventSet) : Bool :=
  !set.events.isEmpty &&
    set.events.all fun event =>
      match event.details.thread? with
      | some thread => invoking.contains thread
      | none => false

/-- The orders that undo the suspension of a set.  A thread that several consecutive events
name is resumed once. -/
def resumption (set : EventSet) : List Order :=
  match set.policy with
  | .none => []
  | .eventThread => set.threads.eraseReps.map fun thread => (Call.resumeThread thread).order
  | .all => [Call.resumeAll.order]

end FrameEval.Link
