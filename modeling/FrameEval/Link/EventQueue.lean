import FrameEval.Wire.Event

/-!
# Waiting event sets

The event sets that were reported and not yet received, oldest first.  The queue has a
capacity; a set that finds it full is lost, so what is received is a subsequence of what
was offered.
-/

namespace FrameEval.Link

open Wire

/-- A bounded queue of event sets. -/
structure EventQueue where
  capacity : Nat
  sets : List EventSet

namespace EventQueue

def empty (capacity : Nat) : EventQueue := ⟨capacity, []⟩

/-- Whether a further set would be lost. -/
def isFull (queue : EventQueue) : Bool :=
  queue.capacity ≤ queue.sets.length

/-- Put a set at the end, unless the queue is full. -/
def offer (set : EventSet) (queue : EventQueue) : EventQueue :=
  if queue.isFull then queue else { queue with sets := queue.sets ++ [set] }

/-- Take the oldest set. -/
def receive (queue : EventQueue) : Option EventSet × EventQueue :=
  match queue.sets with
  | [] => (none, queue)
  | set :: rest => (some set, { queue with sets := rest })

end EventQueue

end FrameEval.Link
