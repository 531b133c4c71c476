import FrameEval.Wire.Call.Basic
import FrameEval.Wire.Variable

/-!
# Calls about threads and frames

The name and the frames of a thread, and the local variables and the receiver of a frame.
A frame can only be looked at while its thread is suspended.
-/

namespace FrameEval.Wire

namespace Reader

def frameInfo : Reader FrameInfo := do
  let id ← uint64
  let location ← location
  return ⟨id, location⟩

end Reader

namespace Writer

/-- A number of slots to read, each with the type under which it is read. -/
def slots (slots : List VariableSlot) : Bytes :=
  count slots.length ++ (slots.map fun slot => int32 slot.slot ++ uint8 slot.typeByte).flatten

/-- Slots with tagged values. -/
def slotValues (values : List (Int32 × Value)) : Bytes :=
  count values.length ++ (values.map fun entry => int32 entry.1 ++ tagged entry.2).flatten

end Writer

namespace Call

def threadName (thread : ThreadId) : Call String :=
  plain CommandSet.thread 1 (Writer.uint64 thread) Reader.text

/-- Undo one suspension of a thread. -/
def resumeThread (thread : ThreadId) : Call Unit :=
  plain CommandSet.thread 3 (Writer.uint64 thread) (return ())

/-- So many frames of a thread from a depth on; a length of -1 stands for all. -/
def frames (thread : ThreadId) (first length : Int32) : Call (List FrameInfo) :=
  plain CommandSet.thread 6 (Writer.uint64 thread ++ Writer.int32 first ++ Writer.int32 length)
    (Reader.counted Reader.frameInfo)

def frameValues (thread : ThreadId) (frame : FrameId) (slots : List VariableSlot) :
    Call (List Value) :=
  plain CommandSet.frame 1 (Writer.uint64 thread ++ Writer.uint64 frame ++ Writer.slots slots)
    (Reader.counted Reader.tagged)

def setFrameValues (thread : ThreadId) (frame : FrameId) (values : List (Int32 × Value)) :
    Call Unit :=
  plain CommandSet.frame 2 (Writer.uint64 thread ++ Writer.uint64 frame ++ Writer.slotValues values)
    (return ())

/-- The receiver of a frame under its tag; zero in a frame without one. -/
def receiver (thread : ThreadId) (frame : FrameId) : Call (UInt8 × ObjectId) :=
  plain CommandSet.frame 3 (Writer.uint64 thread ++ Writer.uint64 frame) Reader.taggedObject

end Call

end FrameEval.Wire
