import FrameEval.Json.Decode
import FrameEval.Json.Parser
import FrameEval.Json.Printer

/-!
# Messages

A client sends one JSON text a line.  A message with a member `id` is a request, which is
answered under the same id, whatever value that is; every other message is a notification
and never answered.
-/

namespace FrameEval.Server

/-- What a client wants answered. -/
structure Request where
  /-- Any value, by which the client finds the response. -/
  id : Json
  method : String
  params : Option Json

/-- What a client only tells. -/
structure Notification where
  method : String
  params : Option Json

/-- Why a request has no result. -/
structure Refusal where
  code : Int
  message : String
  deriving DecidableEq

namespace Refusal

/-- The line is no JSON text. -/
def parseError : Refusal := ⟨-32700, "Parse error"⟩

/-- The message has an id and is no request. -/
def invalidRequest : Refusal := ⟨-32600, "Invalid request"⟩

def methodNotFound (method : String) : Refusal := ⟨-32601, s!"Method not found: {method}"⟩

def invalidParams (detail : String) : Refusal := ⟨-32602, detail⟩

def toJson (refusal : Refusal) : Json :=
  .object [("code", .ofInt64 (Int64.ofInt refusal.code)), ("message", .string refusal.message)]

end Refusal

/-- The answer to a request. -/
structure Response where
  id : Json
  result : Except Refusal Json

namespace Response

/-- The version of the message format. -/
def formatVersion : String := "2.0"

/-- A refusal of a message whose id is not known. -/
def anonymous (refusal : Refusal) : Response := ⟨.null, .error refusal⟩

/-- The members of a response in the order in which they are written. -/
def members (response : Response) : List (String × Json) :=
  [("jsonrpc", .string formatVersion), ("id", response.id),
    match response.result with
    | .ok result => ("result", result)
    | .error refusal => ("error", refusal.toJson)]

/-- The line of a response. -/
def text (response : Response) : String :=
  "\x7b" ++ String.intercalate "," (Json.printMembers response.members) ++ "\x7d"

end Response

def Request.ofJson? (json : Json) : Option Request := do
  let [some version, some id, some method, params] ←
    json.fields? ["jsonrpc", "id", "method", "params"] | none
  let _ ← version.string?
  return ⟨id, ← method.string?, Json.given params⟩

def Notification.ofJson? (json : Json) : Option Notification := do
  let [some version, some method, params] ←
    json.fields? ["jsonrpc", "method", "params"] | none
  let _ ← version.string?
  return ⟨← method.string?, Json.given params⟩

/-- What a line says. -/
inductive Message where
  | request (request : Request)
  | notification (notification : Notification)
  /-- A value without an id that is no notification. -/
  | ignored
  /-- A value with an id that is no request. -/
  | invalidRequest
  /-- No JSON text. -/
  | unparsable

namespace Message

def ofJson (json : Json) : Message :=
  match json.member? "id" with
  | some _ =>
      match Request.ofJson? json with
      | some found => request found
      | none => invalidRequest
  | none =>
      match Notification.ofJson? json with
      | some found => notification found
      | none => ignored

def ofLine (line : String) : Message :=
  match Json.parse? line with
  | some json => ofJson json
  | none => unparsable

end Message

end FrameEval.Server
