import FrameEval.Json.Basic

/-!
# What the server offers

The description that a client gets when it connects, and the tools with the forms of their
arguments.
-/

namespace FrameEval.Server

/-! ## Names of the tools -/
namespace ToolName

def attach : String := "debug.attach"

def listThreads : String := "debug.list_threads"

def evaluate : String := "debug.evaluate"

def disconnect : String := "debug.disconnect"

end ToolName

namespace Catalog

/-- The version of the tool protocol. -/
def protocolVersion : String := "2024-11-05"

def serverName : String := "jdwp-eval-mcp"

def serverVersion : String := "0.1.0"

def instructions : String :=
  "Expression evaluation for suspended Java threads. " ++
  "Use debug.attach to connect to a JVM, debug.list_threads to find a " ++
  "suspended thread, then debug.evaluate with a compiled instruction sequence."

/-- The description of the server. -/
def description : Json :=
  .ofMembers [
    ("protocolVersion", .string protocolVersion),
    ("capabilities", .ofMembers [("tools", .object [])]),
    ("serverInfo", .ofMembers [("name", .string serverName), ("version", .string serverVersion)]),
    ("instructions", .string instructions)]

/-- An argument of a tool. -/
def argument (type : Json) (description : String) (more : List (String × Json)) : Json :=
  .ofMembers ([("type", type), ("description", .string description)] ++ more)

/-- A tool with its arguments, of which some must be given. -/
def tool (name description : String) (arguments : List (String × Json))
    (required : List String) : Json :=
  let properties := [("type", .string "object"), ("properties", .ofMembers arguments)]
  let required :=
    if required.isEmpty then [] else [("required", Json.array (required.map .string))]
  .ofMembers [
    ("name", .string name),
    ("description", .string description),
    ("inputSchema", .ofMembers (properties ++ required))]

def attachTool : Json :=
  tool ToolName.attach "Connect to a JVM via JDWP protocol"
    [("host", argument (.string "string") "JVM host (e.g., 'localhost')"
        [("default", .string "localhost")]),
      ("port", argument (.string "integer") "JDWP port (e.g., 5005)" [("default", .ofNat 5005)]),
      ("timeout_ms", argument (.string "integer") "Handshake timeout in milliseconds"
        [("default", .ofNat 5000)])]
    ["host", "port"]

def listThreadsTool : Json :=
  tool ToolName.listThreads "List threads with their names and suspended frame counts" [] []

def evaluateTool : Json :=
  tool ToolName.evaluate "Run a compiled instruction sequence in a suspended frame"
    [("thread_id", argument (.array [.string "string", .string "integer"])
        "Thread ID from list_threads, '0x1a' style hex or a number" []),
      ("frame", argument (.string "integer") "Frame depth, 0 is the top frame"
        [("default", .ofNat 0)]),
      ("instructions", argument (.string "array")
        ("Instruction sequence, e.g. " ++
          "[\x7b\"push_local\": \"values\"\x7d, \x7b\"field_get\": \"length\"\x7d]")
        [("items", .object [])])]
    ["thread_id", "instructions"]

def disconnectTool : Json :=
  tool ToolName.disconnect "End the debug session" [] []

/-- The list of the tools. -/
def tools : Json :=
  .ofMembers [("tools", .array [attachTool, listThreadsTool, evaluateTool, disconnectTool])]

end Catalog

end FrameEval.Server
