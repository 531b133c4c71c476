import FrameEval.Proofs.World.Trail

/-!
# Handles keep their identity

Classes, objects, strings, arrays and frames of a world have their ids from one counter.  Until that
has run once through all numbers no two of them ever share an id, also if some of the ids were
drawn in vain, and the id of a frame that was popped, or whose thread gave out new ids, is refused
from then on.
-/

namespace FrameEval

open Wire

/-- How a world deals with ids in the course of a history. -/
structure KeepsIdentity (history : List World.Demand) : Prop where
  /-- The heap after each part of the history is that after a part of the trail. -/
  moments : ∀ before, before <+: history → World.trail before <+: World.trail history ∧
    (World.after before).heap = Heap.blank.undergoAll (World.trail before)
  /-- Along the trail ids are drawn in order, each of them once and for one thing. -/
  unaliased : Heap.Unaliased (World.trail history)
  /-- Once a frame id was dismissed, every access by it is refused and leaves the heap alone, in
  every world with a heap of a later moment. -/
  stale : ∀ before deed later, before ++ deed :: later <+: World.trail history →
    ∀ id ∈ (Heap.blank.undergoAll before).dismisses deed, ∀ world : World,
      world.heap = Heap.blank.undergoAll (before ++ deed :: later) →
        ∀ operation thread, operation.frameAccess? = some (thread, id) →
          (world.answer operation).1 = .error (.failed (world.staleness id)) ∧
            (world.answer operation).2.heap = world.heap
  /-- A world that was disconnected stays so. -/
  lost : ∀ first second, first <+: second → second <+: history →
    (World.after first).connected = false → (World.after second).connected = false

/-- As long as a history draws fewer ids than there are numbers, handles keep their identity. -/
theorem handles_keep_identity
    (history : List World.Demand)
    (few : (Heap.blank.drawnIds (World.trail history)).length < UInt64.size) :
    KeepsIdentity history := by
  have unaliased : Heap.Unaliased (World.trail history) := Heap.unaliased few
  refine
    { moments := fun before part => ⟨World.trail_prefix part, World.heap_after before⟩
      unaliased := unaliased
      stale := ?stale
      lost := fun first second part _ => World.disconnected_after part }
  case stale =>
    intro before deed later part id dismissed world same operation thread accesses
    refine World.answer_of_absent accesses ?_
    rw [same]
    exact unaliased.gone before deed later part id dismissed thread

/-- A method is called that pushes a frame and pops it, an array is not created, and then the frame
of the caller gets another id. -/
def calledAndReissued : List World.Demand :=
  [.act (.loadClass ⟨"LMain;", none, [], [],
      [⟨"run", "()V", true,
        .ofActs [.pushFrame 1 (.inr "LMain;") 0 (.value .null) [], .popFrame 1] .returnVoid⟩]⟩),
    .act (.pushFrame 1 (.inr "LMain;") 0 (.value .null) []),
    .act (.newArray none "I" []),
    .operation (.invoke 1 none ⟨0x103, 0, "run", "()V", true⟩ []),
    .act (.reissueFrames 1)]

/-- Seven ids are drawn, the fifth for the array and the sixth for the inner frame. -/
theorem calledAndReissued_keeps_identity :
    (Heap.blank.drawnIds (World.trail calledAndReissued)).length < UInt64.size ∧
      KeepsIdentity calledAndReissued := by
  have drawn : Heap.blank.drawnIds (World.trail calledAndReissued) =
      [0x101, 0x102, 0x103, 0x104, 0x105, 0x106, 0x107] := by
    decide +kernel
  have few : (Heap.blank.drawnIds (World.trail calledAndReissued)).length < UInt64.size := by
    rw [drawn]
    decide
  exact ⟨few, handles_keep_identity calledAndReissued few⟩

/-- The id that the frame of the caller had at first is stale. -/
example : ((World.after calledAndReissued).answer (.thisObject 1 0x104)).1 =
    .error (.failed (.staleFrame "invalid frame id 104")) := by
  rfl

end FrameEval
