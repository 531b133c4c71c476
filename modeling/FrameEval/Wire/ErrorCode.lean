/-!
# Error codes of the target

The code with which a target refuses a command, the names of the known codes, and the
codes that the evaluation treats apart.
-/

namespace FrameEval.Wire

/-- The code of a refused command; zero is success. -/
abbrev ErrorCode := UInt16

namespace ErrorCode

def invalidThread : ErrorCode := 10

def threadNotSuspended : ErrorCode := 13

def invalidObject : ErrorCode := 20

def invalidFrame : ErrorCode := 30

def absentInformation : ErrorCode := 101

def targetDead : ErrorCode := 112

/-- The known codes with their names. -/
def names : List (ErrorCode × String) := [
  (0, "NONE"),
  (10, "INVALID_THREAD"),
  (11, "INVALID_THREAD_GROUP"),
  (12, "INVALID_PRIORITY"),
  (13, "THREAD_NOT_SUSPENDED"),
  (14, "THREAD_SUSPENDED"),
  (20, "INVALID_OBJECT"),
  (21, "INVALID_CLASS"),
  (22, "CLASS_NOT_PREPARED"),
  (23, "INVALID_METHODID"),
  (24, "INVALID_LOCATION"),
  (25, "INVALID_FIELDID"),
  (30, "INVALID_FRAMEID"),
  (31, "NO_MORE_FRAMES"),
  (32, "OPAQUE_FRAME"),
  (33, "NOT_CURRENT_FRAME"),
  (34, "TYPE_MISMATCH"),
  (35, "INVALID_SLOT"),
  (40, "DUPLICATE"),
  (41, "NOT_FOUND"),
  (50, "INVALID_MONITOR"),
  (51, "NOT_MONITOR_OWNER"),
  (52, "INTERRUPT"),
  (99, "NOT_IMPLEMENTED"),
  (100, "NULL_POINTER"),
  (101, "ABSENT_INFORMATION"),
  (102, "INVALID_EVENT_TYPE"),
  (103, "ILLEGAL_ARGUMENT"),
  (110, "OUT_OF_MEMORY"),
  (111, "ACCESS_DENIED"),
  (112, "VM_DEAD"),
  (113, "INTERNAL"),
  (115, "UNATTACHED_THREAD"),
  (500, "INVALID_TAG"),
  (502, "ALREADY_INVOKING"),
  (503, "INVALID_INDEX"),
  (504, "INVALID_LENGTH"),
  (506, "INVALID_STRING"),
  (507, "INVALID_CLASS_LOADER"),
  (508, "INVALID_ARRAY"),
  (511, "NATIVE_METHOD"),
  (512, "INVALID_COUNT")
]

/-- The name of a code. -/
def name (code : ErrorCode) : String :=
  ((names.find? fun entry => entry.1 = code).map Prod.snd).getD "UNKNOWN_ERROR"

end ErrorCode

end FrameEval.Wire
