import FrameEval.Wire.Call.Basic
import FrameEval.Wire.Variable

/-!
# Calls about the target as a whole

Its version and id sizes, its loaded classes and its threads, strings made in it, and the
suspension of everything that it runs.
-/

namespace FrameEval.Wire

/-- What the target says about itself. -/
structure Version where
  description : String
  major : Int32
  minor : Int32
  targetVersion : String
  targetName : String
  deriving DecidableEq

/-- A loaded class as a lookup by signature finds it. -/
structure ClassInfo where
  /-- 1 for a class, 2 for an interface, 3 for an array type. -/
  typeTag : UInt8
  id : TypeId
  signature : String
  status : Int32
  deriving DecidableEq

namespace Reader

def version : Reader Version := do
  let description ← text
  let major ← int32
  let minor ← int32
  let targetVersion ← text
  let targetName ← text
  return ⟨description, major, minor, targetVersion, targetName⟩

def idSizes : Reader IdSizes := do
  let field ← int32
  let method ← int32
  let object ← int32
  let referenceType ← int32
  let frame ← int32
  return ⟨field, method, object, referenceType, frame⟩

/-- A class that was looked up by its signature. -/
def classInfo (signature : String) : Reader ClassInfo := do
  let typeTag ← uint8
  let id ← uint64
  let status ← int32
  return ⟨typeTag, id, signature, status⟩

end Reader

namespace Call

def version : Call Version :=
  plain CommandSet.target 1 [] Reader.version

/-- The loaded classes with a signature. -/
def classesBySignature (signature : String) : Call (List ClassInfo) :=
  plain CommandSet.target 2 (Writer.text signature) (Reader.counted (Reader.classInfo signature))

def allThreads : Call (List ThreadId) :=
  plain CommandSet.target 4 [] (Reader.counted Reader.uint64)

/-- Let go of the target: its event requests are cleared and its threads resumed. -/
def dispose : Call Unit :=
  plain CommandSet.target 6 [] (return ())

def idSizes : Call IdSizes :=
  plain CommandSet.target 7 [] Reader.idSizes

/-- Suspend every thread. -/
def suspendAll : Call Unit :=
  plain CommandSet.target 8 [] (return ())

/-- Undo one suspension of every thread. -/
def resumeAll : Call Unit :=
  plain CommandSet.target 9 [] (return ())

/-- Make a string in the target. -/
def createString (text : String) : Call ObjectId :=
  plain CommandSet.target 11 (Writer.text text) Reader.uint64

end Call

end FrameEval.Wire
