import FrameEval.Elapsed
import Std.Async.Timer

/-!
# Waiting

A wait for the first of several tasks, with a bound.
-/

namespace FrameEval.Main

open Std.Async

/-- Do something in the background; a failure is the result of the task. -/
def inBackground {α : Type} (work : Async α) : BaseIO (Task (Except IO.Error α)) := do
  match ← work.toIO.toBaseIO with
  | .ok task => return task
  | .error error => return .pure (.error error)

/-- The result of the first task that is over, or nothing when the time is up. -/
def firstWithin {α : Type} (span : Elapsed) (tasks : List (Task α)) : IO (Option α) := do
  let sleep ← (Sleep.mk (.ofNat (span.nanoseconds / 1000000))).block
  let timeUp ← inBackground sleep.wait
  let outcomes := tasks.map fun task => task.map some
  let result ← IO.waitAny (outcomes ++ [timeUp.map fun _ => none]) (by simp)
  sleep.stop
  return result

end FrameEval.Main
