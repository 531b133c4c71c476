import FrameEval.Instruction.Json
import FrameEval.Json.Printer
import FrameEval.Server.Catalog
import FrameEval.Server.Evaluation
import FrameEval.Wire.Call.Target
import FrameEval.Wire.Call.Thread

/-!
# Tools

The four tools of the server.  A tool tells a text, or it is refused with a text.  The text
of a failed evaluation starts with the category of the failure, so that a client can tell an
exception of the target from a lost connection and from a fault of the program.
-/

namespace FrameEval.Server

open Wire

/-- Why a tool has no text to tell. -/
inductive ToolFailure where
  | refused (text : String)
  /-- A limit was reached, so the tool would go on for ever. -/
  | exhausted
  /-- The evaluation broke off, and the tool with it. -/
  | aborted
  deriving DecidableEq

/-- A tool at work. -/
abbrev Tool (α : Type) := ExceptT ToolFailure (Dialogue Query Query.Answer) α

/-- The text of a failed evaluation after its category. -/
def categorized (error : EvalError) : String :=
  match error with
  | .remoteException description _ => s!"exception: {description}"
  | .cancelled => "cancelled"
  | _ =>
      if error.isConnectionLoss then s!"connection: {error.message}"
      else if error.isInternal then s!"internal: {error.message}"
      else s!"evaluation: {error.message}"

/-- A thread id: a number, or a text in base ten or, after `0x`, in base sixteen. -/
def threadId? (json : Json) : Option ThreadId :=
  match json with
  | .string text =>
      match text.toList with
      | '0' :: 'x' :: digits => Text.readWord? 16 digits
      | digits => Text.readWord? 10 digits
  | other => other.natural?

namespace Tool

variable {α : Type}

def refuse (text : String) : Tool α :=
  throw (.refused text)

/-- Do something that cannot be refused. -/
def lift (handling : Handling α) : Tool α :=
  ExceptT.lift handling

/-- Do something whose failure is told by a text. -/
def orRefuse (wording : EvalError → String) (handling : Handling (Except Halt α)) : Tool α := do
  match ← lift handling with
  | .ok result => return result
  | .error (.failed error) => refuse (wording error)
  | .error .exhausted => throw .exhausted
  | .error .aborted => throw .aborted

/-- Make a call over a link, be its result an error or not. -/
def attempt (link : LinkId) (call : Call α) : Tool (Except ClientError α) :=
  orRefuse categorized (Handling.overLink link (Remote.Errand.attempt call))

/-- The target of the current session. -/
def currentLink : Tool LinkId := do
  match ← lift (Handling.onSessions SessionTable.currentSession) with
  | some link => return link
  | none => refuse "No active debug session. Use debug.attach first."

/-- A member of the arguments that is a natural number. -/
def naturalArgument (arguments : Json) (name : String) : Option UInt64 := do
  (← arguments.member? name).natural?

/-- Connect to a target, check it and make its session the current one. -/
def attach (arguments : Json) : Tool String := do
  let host := ((arguments.member? "host").bind Json.string?).getD "localhost"
  let port := (naturalArgument arguments "port").getD 5005
  if UInt16.size ≤ port.toNat then refuse s!"Invalid port: {port.toNat}"
  let standard := Link.Waits.standard
  let waits :=
    match naturalArgument arguments "timeout_ms" with
    | some count => { standard with handshake := .ofMilliseconds count.toNat }
    | none => standard
  match ← lift (Handling.act (.connect host port.toUInt16 waits)) with
  | .error error => refuse s!"Failed to connect: {error.message}"
  | .ok link => do
      match ← lift (Handling.overLink link Remote.attach) with
      | .error (.failed error) => do
          lift (Handling.act (.discard link))
          refuse s!"Failed to attach: {error.message}"
      | .error .exhausted => throw .exhausted
      | .error .aborted => throw .aborted
      | .ok () => do
          let id ← lift (Handling.act .freshSessionId)
          lift (Handling.onSessions (SessionTable.create id link))
          return s!"Connected to JVM at {host}:{port.toNat} (session: {id})"

/-- What is told about the frames of a thread.  They can only be counted while the thread is
suspended; a lost connection is no property of the thread. -/
def threadStatus (frames : Except ClientError (List FrameInfo)) : Except String String :=
  match frames with
  | .ok frames =>
      let count := frames.length
      .ok s!"suspended, {count} frame(s)"
  | .error error =>
      if error.code? = some ErrorCode.threadNotSuspended then .ok "running"
      else
        let error := error.toEvalError
        if error.isConnectionLoss then .error (categorized error)
        else .ok s!"unavailable: {error.message}"

/-- One line for each thread. -/
def threadLines (link : LinkId) : List ThreadId → Tool String
  | [] => return ""
  | thread :: rest => do
      let name := match ← attempt link (Call.threadName thread) with
        | .ok name => name
        | .error _ => "<unknown>"
      match threadStatus (← attempt link (Call.frames thread 0 (-1))) with
      | .error text => refuse text
      | .ok status => do
          let later ← threadLines link rest
          return s!"  0x{Text.hex thread.toNat} {name} ({status})\n" ++ later

/-- The threads of the current target. -/
def listThreads : Tool String := do
  let link ← currentLink
  match ← attempt link Call.allThreads with
  | .error error => refuse s!"Failed to get threads: {error.message}"
  | .ok threads => do
      let count := threads.length
      let lines ← threadLines link threads
      return s!"{count} thread(s):\n" ++ lines

/-- Run a program in a frame of the current target. -/
def evaluate (setup : Setup) (arguments : Json) : Tool String := do
  let link ← currentLink
  let some given := arguments.member? "thread_id" | refuse "Missing 'thread_id' parameter"
  let some thread := threadId? given | refuse s!"Invalid thread_id: {given.print}"
  let depth := ((naturalArgument arguments "frame").getD 0).toNat
  let some code := arguments.member? "instructions" | refuse "Missing 'instructions' parameter"
  let some program := Program.ofJson? code
    | refuse s!"Invalid instructions: {setup.objection .program code}"
  orRefuse categorized (Handling.evaluate setup link thread depth program)

/-- Close the current session and let go of its target. -/
def disconnect : Tool String := do
  match ← lift (Handling.onSessions SessionTable.currentId) with
  | none => refuse "No active debug session"
  | some id => do
      if let some link ← lift (Handling.onSessions (SessionTable.close id)) then
        let _ ← attempt link Call.dispose
        lift (Handling.act (.discard link))
      return s!"Disconnected from debug session: {id}"

/-- Use the tool of a given name. -/
def use (setup : Setup) (name : String) (arguments : Json) : Tool String :=
  if name = ToolName.attach then attach arguments
  else if name = ToolName.listThreads then listThreads
  else if name = ToolName.evaluate then evaluate setup arguments
  else if name = ToolName.disconnect then disconnect
  else refuse s!"Unknown tool: {name}"

end Tool

end FrameEval.Server
