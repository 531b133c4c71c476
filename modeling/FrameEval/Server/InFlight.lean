import FrameEval.Json.Printer
import FrameEval.Table

/-!
# Requests in flight

Each request that is being handled has a token, and a notification that names the id of the
request cancels it.  Ids are told apart by their JSON text, so `1` and `"1"` are different
requests.  A token that was cancelled stays so.
-/

namespace FrameEval.Server

/-- By which a handler learns that its request was cancelled. -/
abbrev Token := Nat

/-- The tokens of the requests that are being handled. -/
structure InFlight where
  tokens : Table String Token
  /-- No token from here on was given out. -/
  nextToken : Token
  cancelled : List Token

namespace InFlight

def empty : InFlight := ⟨.empty, 0, []⟩

/-- The token of the request with an id. -/
def token? (table : InFlight) (id : Json) : Option Token :=
  table.tokens.find? id.print

/-- The handling of a request starts: it gets a new token. -/
def start (id : Json) (table : InFlight) : Token × InFlight :=
  (table.nextToken,
    { table with
      tokens := table.tokens.insert id.print table.nextToken
      nextToken := table.nextToken + 1 })

/-- The handling of a request is over. -/
def finish (id : Json) (table : InFlight) : InFlight :=
  { table with tokens := table.tokens.erase id.print }

/-- Cancel the request with an id, if it is being handled. -/
def cancel (id : Json) (table : InFlight) : InFlight :=
  match table.token? id with
  | some token => { table with cancelled := token :: table.cancelled }
  | none => table

/-- Whether a token was cancelled. -/
def isCancelled (table : InFlight) (token : Token) : Bool :=
  table.cancelled.contains token

end InFlight

end FrameEval.Server
