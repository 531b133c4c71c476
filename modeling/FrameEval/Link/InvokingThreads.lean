import FrameEval.Table
import FrameEval.Wire.Value

/-!
# Threads that run an invocation

How many invocations run on each thread.  While a thread runs one, the evaluated code may
hit a breakpoint on it; such a suspension is not reported but undone.  A thread without
running invocations has no entry, so the table holds no zero.
-/

namespace FrameEval.Link

open Wire

/-- The number of running invocations for each thread that runs one. -/
structure InvokingThreads where
  counts : Table ThreadId Nat

namespace InvokingThreads

def empty : InvokingThreads := ⟨.empty⟩

instance : Inhabited InvokingThreads := ⟨empty⟩

/-- An invocation starts on a thread. -/
def enter (thread : ThreadId) (threads : InvokingThreads) : InvokingThreads :=
  ⟨threads.counts.insert thread ((threads.counts.find? thread).getD 0 + 1)⟩

/-- An invocation on a thread is over. -/
def leave (thread : ThreadId) (threads : InvokingThreads) : InvokingThreads :=
  match threads.counts.find? thread with
  | none => threads
  | some count =>
      if count ≤ 1 then ⟨threads.counts.erase thread⟩
      else ⟨threads.counts.insert thread (count - 1)⟩

/-- Whether an invocation runs on a thread. -/
def contains (threads : InvokingThreads) (thread : ThreadId) : Bool :=
  threads.counts.contains thread

end InvokingThreads

end FrameEval.Link
