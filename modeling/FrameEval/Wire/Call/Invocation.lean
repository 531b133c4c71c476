import FrameEval.Wire.Call.Basic

/-!
# Calls that run code

The target invokes a method or a constructor on a suspended thread and replies when it is
over, with the result and the exception that was thrown.  The exception zero means that
none was.
-/

namespace FrameEval.Wire

/-- Whether only the invoking thread runs while the target runs code. -/
def singleThreaded : Int32 := 1

/-- How an invocation ended. -/
structure InvocationReply where
  value : Value
  exception : ObjectId
  deriving DecidableEq

/-- Whether the invoked code threw an exception. -/
def InvocationReply.threw (reply : InvocationReply) : Bool :=
  reply.exception ≠ 0

namespace Reader

/-- The end of an invocation: the returned value and the exception. -/
def invocationReply : Reader InvocationReply := do
  let value ← tagged
  let (_, exception) ← taggedObject
  return ⟨value, exception⟩

/-- The end of a construction: the new object, under whatever tag, and the exception. -/
def constructionReply : Reader InvocationReply := do
  let (tag, object) ← taggedObject
  let (_, exception) ← taggedObject
  return ⟨⟨tag, .object object⟩, exception⟩

end Reader

namespace Writer

/-- Tagged arguments after their number, then the options. -/
def arguments (arguments : List Value) (options : Int32) : Bytes :=
  count arguments.length ++ (arguments.map tagged).flatten ++ int32 options

end Writer

namespace Call

/-- Invoke a method on a receiver. -/
def invokeMethod (receiver : ObjectId) (thread : ThreadId) (type : TypeId) (method : MethodId)
    (arguments : List Value) (options : Int32) : Call InvocationReply :=
  running CommandSet.object 6
    (Writer.uint64 receiver ++ Writer.uint64 thread ++ Writer.uint64 type ++ Writer.uint64 method ++
      Writer.arguments arguments options)
    Reader.invocationReply

/-- Invoke a static method. -/
def invokeStatic (type : TypeId) (thread : ThreadId) (method : MethodId)
    (arguments : List Value) (options : Int32) : Call InvocationReply :=
  running CommandSet.classType 3
    (Writer.uint64 type ++ Writer.uint64 thread ++ Writer.uint64 method ++
      Writer.arguments arguments options)
    Reader.invocationReply

/-- Make an object and invoke a constructor on it. -/
def newInstance (type : TypeId) (thread : ThreadId) (constructor : MethodId)
    (arguments : List Value) (options : Int32) : Call InvocationReply :=
  running CommandSet.classType 4
    (Writer.uint64 type ++ Writer.uint64 thread ++ Writer.uint64 constructor ++
      Writer.arguments arguments options)
    Reader.constructionReply

end Call

end FrameEval.Wire
