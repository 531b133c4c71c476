import FrameEval.Dialogue
import FrameEval.Table

/-!
# The sessions of a server

A session is an attached target.  The table keeps the open sessions and which of them is
the current one.  The two are guarded apart, so an operation on both takes two steps and
steps of other operations may come between them.
-/

namespace FrameEval.Server

/-- The name of a session. -/
abbrev SessionId := String

/-- The open sessions, and the one that tools use. -/
structure SessionTable (Link : Type) where
  sessions : Table SessionId Link
  current : Option SessionId

namespace SessionTable

variable {Link : Type}

def empty : SessionTable Link := ⟨.empty, none⟩

/-- One step on the table. -/
inductive Step (Link : Type) where
  | insert (id : SessionId) (link : Link)
  | remove (id : SessionId)
  | find (id : SessionId)
  | current
  /-- Make a session the current one. -/
  | select (id : SessionId)
  /-- If a session is the current one, there is none any more. -/
  | deselect (id : SessionId)

/-- What each step tells. -/
@[reducible]
def Step.Answer : Step Link → Type
  | .insert _ _ => Unit
  | .remove _ => Option Link
  | .find _ => Option Link
  | .current => Option SessionId
  | .select _ => Unit
  | .deselect _ => Unit

/-- What each step does. -/
def apply : (step : Step Link) → SessionTable Link → step.Answer × SessionTable Link
  | .insert id link, table => ((), { table with sessions := table.sessions.insert id link })
  | .remove id, table =>
      (table.sessions.find? id, { table with sessions := table.sessions.erase id })
  | .find id, table => (table.sessions.find? id, table)
  | .current, table => (table.current, table)
  | .select id, table => ((), { table with current := some id })
  | .deselect id, table =>
      ((), if table.current = some id then { table with current := none } else table)

/-- An operation in steps. -/
abbrev Operation (Link α : Type) := Dialogue (Step Link) Step.Answer α

/-- Open a session and make it the current one. -/
def create (id : SessionId) (link : Link) : Operation Link Unit := do
  Dialogue.query (Step.insert id link)
  Dialogue.query (Step.select id)

/-- The current session, if it is still open when it is looked up. -/
def currentSession : Operation Link (Option Link) := do
  match ← Dialogue.query (Step.current : Step Link) with
  | none => return none
  | some id => Dialogue.query (Step.find id)

/-- The name of the current session. -/
def currentId : Operation Link (Option SessionId) :=
  Dialogue.query Step.current

/-- Close a session; of several attempts only the first one finds it. -/
def close (id : SessionId) : Operation Link (Option Link) := do
  let found ← Dialogue.query (Step.remove id : Step Link)
  Dialogue.query (Step.deselect id : Step Link)
  return found

end SessionTable

end FrameEval.Server
