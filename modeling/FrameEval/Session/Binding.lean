import FrameEval.Evaluation.Run

/-!
# Binding an evaluation to a frame

A context is bound to a frame of a suspended thread while the thread is reserved.  The
thread stays reserved until the context is released; if the binding fails it is released at
once.
-/

namespace FrameEval.Session

open Wire

/-- What a session asks. -/
inductive Request where
  /-- Wait until the thread is free, and reserve it. -/
  | acquire (thread : ThreadId)
  | release (thread : ThreadId)
  | inquiry (inquiry : Inquiry)

/-- The answers to what a session asks. -/
@[reducible]
def Request.Answer : Request → Type
  | acquire _ => Unit
  | release _ => Unit
  | inquiry asked => asked.Answer

/-- A program of a session. -/
abbrev Program (α : Type) := Dialogue Request Request.Answer α

/-- Reserve a thread. -/
def acquire (thread : ThreadId) : Program Unit := Dialogue.query (Request.acquire thread)

/-- Give up a thread. -/
def release (thread : ThreadId) : Program Unit := Dialogue.query (Request.release thread)

/-- Run an evaluation within a session. -/
def ofInquiries {α : Type} : Dialogue Inquiry Inquiry.Answer α → Program α
  | .done result => .done result
  | .ask inquiry next => .ask (.inquiry inquiry) fun answer => ofInquiries (next answer)

/-- Ask for one operation. -/
def perform (operation : Operation) : Program (Except Halt operation.Answer) :=
  Dialogue.query (Request.inquiry (.operation operation))

/-- Fetch a frame and its live variables. -/
def fetchContext (thread : ThreadId) (depth : Nat) : Program (Except Halt Context) := do
  match ← perform (.frame thread depth) with
  | .error halt => return .error halt
  | .ok frame =>
      match ← perform (.variableTable frame.location) with
      | .error halt => return .error halt
      | .ok table =>
          let symbols := SymbolTable.ofVariables table frame.location.index
          return .ok ⟨⟨thread, depth, frame.location, symbols⟩, frame.id⟩

/-- Bind a context; on success its thread stays reserved. -/
def bind (thread : ThreadId) (depth : Nat) : Program (Except Halt Context) := do
  acquire thread
  let result ← fetchContext thread depth
  match result with
  | .ok _ => return result
  | .error _ => do
      release thread
      return result

/-- Bind a context, run a program in it and release the thread. -/
def evaluate (thread : ThreadId) (depth : Nat) (mode : RunMode) (program : FrameEval.Program) :
    Program (Except Halt RemoteValue) := do
  match ← bind thread depth with
  | .error halt => return .error halt
  | .ok context => do
      let (result, _) ← ofInquiries (context.run mode program)
      release thread
      return result

end FrameEval.Session
