import FrameEval.Server.Host
import FrameEval.Text.Blank
import FrameEval.Wire.Utf8

/-!
# The server as a process

The input is cut into lines, white space around a line is dropped, and blank lines are
skipped.  The first line that is not UTF-8 ends the reading.
-/

namespace FrameEval.Console

open Server

/-- The lines of an input; a last line need not be ended. -/
def rawLines (input : Wire.Bytes) : List Wire.Bytes :=
  let (line, lines) := input.foldr
    (fun byte (line, lines) => if byte = 10 then ([], line :: lines) else (byte :: line, lines))
    ([], [])
  line :: lines

/-- The lines before the first one that is not UTF-8. -/
def decodeLines : List Wire.Bytes → List String
  | [] => []
  | line :: rest =>
      match Wire.decodeText? line with
      | some text => text :: decodeLines rest
      | none => []

/-- A line without the white space around it. -/
def trim (line : String) : String :=
  String.ofList (Text.trimBlanks line.toList)

/-- The lines that say something. -/
def lines (input : Wire.Bytes) : List String :=
  ((decodeLines (rawLines input)).map trim).filter fun line => !line.isEmpty

/-- Serve a whole input. -/
def serve {World : Type} (surroundings : Surroundings World) (setup : Setup)
    (input : Wire.Bytes) (host : Host World) : Host World :=
  (lines input).foldl (fun host line => host.line surroundings setup line) host

end FrameEval.Console
