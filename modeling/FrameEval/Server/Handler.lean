import FrameEval.Server.Message
import FrameEval.Server.Tool

/-!
# Handling a request

The three methods of the server.  A refused tool is no error of the request: its text is
told with a mark.
-/

namespace FrameEval.Server

/-- Whether parameters introduce a client, as the first request of a client does. -/
def isIntroduction (params : Json) : Bool :=
  let name? (client : Json) : Option String := do
    let [some name, version] ← client.fields? ["name", "version"] | none
    let _ ← Json.optionalString? version
    name.string?
  let accepted : Option Unit := do
    let [version, client] ← params.fields? ["protocolVersion", "clientInfo"] | none
    let _ ← Json.optionalString? version
    match Json.given client with
    | none => return
    | some client => do
        let _ ← name? client
        return
  accepted.isSome

/-- The tool and the arguments that parameters name. -/
def toolCall? (params : Json) : Option (String × Json) := do
  let [some name, arguments] ← params.fields? ["name", "arguments"] | none
  return (← name.string?, arguments.getD .null)

/-- The result of a tool: its text, marked when the tool was refused. -/
def toolResult (text : String) (refused : Bool) : Json :=
  let block := Json.ofMembers [("type", .string "text"), ("text", .string text)]
  let mark := if refused then [("isError", .bool true)] else []
  .ofMembers (("content", Json.array [block]) :: mark)

/-- Use a tool; a tool that would go on for ever or breaks off gives nothing. -/
def callTool (setup : Setup) (params : Json) : Handling (Option (Except Refusal Json)) :=
  match toolCall? params with
  | none =>
      let objection := setup.objection .toolCall params
      return some (.error (.invalidParams s!"Invalid tool call params: {objection}"))
  | some (name, arguments) => do
      match ← (Tool.use setup name arguments).run with
      | .ok text => return some (.ok (toolResult text false))
      | .error (.refused text) => return some (.ok (toolResult text true))
      | .error .exhausted => return none
      | .error .aborted => return none

/-- Handle a request. -/
def handle (setup : Setup) (request : Request) : Handling (Option (Except Refusal Json)) :=
  let params := request.params.getD (.object [])
  if request.method = "initialize" then
    if isIntroduction params then return some (.ok Catalog.description)
    else
      let objection := setup.objection .introduction params
      return some (.error (.invalidParams s!"Invalid initialize params: {objection}"))
  else if request.method = "tools/list" then return some (.ok Catalog.tools)
  else if request.method = "tools/call" then callTool setup params
  else return some (.error (.methodNotFound request.method))

/-- The id of the request that a notification cancels. -/
def cancelledId? (notification : Notification) : Option Json :=
  if notification.method = "notifications/cancelled" then do
    let [some id, reason] ← (← notification.params).fields? ["requestId", "reason"] | none
    let _ ← Json.optionalString? reason
    return id
  else none

end FrameEval.Server
