import FrameEval.Table
import FrameEval.Wire.Value

/-!
# Reserved threads

An invocation changes the stack of its thread, so at most one party at a time may evaluate
on a thread.  Parties queue up for each thread in the order in which they ask; the one at
the front holds the thread.  A thread that nobody wants has no queue.
-/

namespace FrameEval.Session

open Wire

/-- The parties that want each thread, the holder first. -/
structure ThreadTable (Party : Type) where
  queues : Table ThreadId (List Party)

namespace ThreadTable

variable {Party : Type}

def empty : ThreadTable Party := ⟨.empty⟩

/-- The parties that want a thread, the holder first. -/
def queue (table : ThreadTable Party) (thread : ThreadId) : List Party :=
  (table.queues.find? thread).getD []

/-- The party that holds a thread. -/
def holder? (table : ThreadTable Party) (thread : ThreadId) : Option Party :=
  (table.queue thread).head?

/-- Whether some party holds a thread. -/
def isHeld (table : ThreadTable Party) (thread : ThreadId) : Bool :=
  (table.holder? thread).isSome

/-- Ask for a thread: hold it if it is free, else wait behind those that asked before. -/
def acquire (thread : ThreadId) (party : Party) (table : ThreadTable Party) : ThreadTable Party :=
  ⟨table.queues.insert thread (table.queue thread ++ [party])⟩

/-- Give up a thread, whether the party holds it or waits for it. -/
def release [DecidableEq Party] (thread : ThreadId) (party : Party) (table : ThreadTable Party) :
    ThreadTable Party :=
  match (table.queue thread).erase party with
  | [] => ⟨table.queues.erase thread⟩
  | others => ⟨table.queues.insert thread others⟩

@[simp]
theorem queue_empty (thread : ThreadId) : (empty : ThreadTable Party).queue thread = [] := rfl

@[simp]
theorem queue_acquire_self (table : ThreadTable Party) (thread : ThreadId) (party : Party) :
    (table.acquire thread party).queue thread = table.queue thread ++ [party] := by
  simp [acquire, queue]

@[simp]
theorem queue_acquire_ne (table : ThreadTable Party) {thread other : ThreadId} (party : Party)
    (differs : other ≠ thread) :
    (table.acquire thread party).queue other = table.queue other := by
  simp [acquire, queue, differs]

@[simp]
theorem queue_release_self [DecidableEq Party] (table : ThreadTable Party) (thread : ThreadId)
    (party : Party) :
    (table.release thread party).queue thread = (table.queue thread).erase party := by
  rw [release]
  split
  · next nobody => rw [nobody, queue, Table.find?_erase_self, Option.getD_none]
  · rw [queue, Table.find?_insert_self, Option.getD_some]

@[simp]
theorem queue_release_ne [DecidableEq Party] (table : ThreadTable Party)
    {thread other : ThreadId} (party : Party) (differs : other ≠ thread) :
    (table.release thread party).queue other = table.queue other := by
  rw [release]
  split <;> simp [queue, differs]

end ThreadTable

end FrameEval.Session
