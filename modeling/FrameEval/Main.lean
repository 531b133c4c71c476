import FrameEval.Console
import FrameEval.Main.Service

/-!
# The server process

Lines come from the standard input until it ends; responses go to the standard output, one
a line.  The process ends when every request has its response.
-/

namespace FrameEval.Main

/-- Programs and searches of the process run as long as it takes: no limit is reached within
the life of a machine.  Of a value of the wrong form no more is said than that. -/
def setup : Server.Setup := ⟨1 <<< 62, 1 <<< 62, fun _ _ => "unexpected form"⟩

/-- Read the bytes of a line, its end included; there are none when the input has ended. -/
partial def readLine (input : IO.FS.Stream) (before : ByteArray) : IO ByteArray := do
  let byte ← input.read 1
  if byte.isEmpty then return before
  else if byte[0]? = some 10 then return before ++ byte
  else readLine input (before ++ byte)

/-- Serve lines until the input ends; the jobs that were started are the result. -/
partial def serve (service : Service) (input : IO.FS.Stream)
    (jobs : List (Task (Except IO.Error Unit))) :
    IO (List (Task (Except IO.Error Unit))) := do
  let bytes ← readLine input .empty
  if bytes.isEmpty then return jobs
  match Wire.decodeText? bytes.toList with
  | none => return jobs
  | some text =>
      let line := Console.trim text
      if line.isEmpty then serve service input jobs
      else
        match ← service.line line with
        | none => serve service input jobs
        | some job => serve service input (job :: jobs)

end FrameEval.Main

open FrameEval.Main in
/-- Serve the standard input. -/
def main : IO Unit := do
  let service ← Service.fresh (← IO.getStdout) setup
  for job in ← serve service (← IO.getStdin) [] do
    let _ ← IO.wait job
  service.shutdown
