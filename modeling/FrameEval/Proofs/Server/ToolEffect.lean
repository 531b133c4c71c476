import FrameEval.Server.Host

/-!
# What the tools do to the sessions

Two tools change the sessions of a host.  `Concludes` says from which session table to which a
tool leads, whatever the target and the rest of the world answer; it is put together along the
steps of the tool.

An attachment that succeeds adds a session and makes it the current one, whether or not there was
one before.  A disconnection takes the current session out and makes none current.
-/

namespace FrameEval.Server

open Wire

namespace Tool

/-- The address that the arguments of an attachment name. -/
def attachAddress (arguments : Json) : String :=
  ((arguments.member? "host").bind Json.string?).getD "localhost"

/-- The port that the arguments of an attachment name. -/
def attachPort (arguments : Json) : UInt64 :=
  (naturalArgument arguments "port").getD 5005

/-- What an attachment tells about the session that it has opened. -/
def attachedText (arguments : Json) (id : SessionId) : String :=
  s!"Connected to JVM at {attachAddress arguments}:{(attachPort arguments).toNat} (session: {id})"

/-- What a disconnection tells about the session that it has closed. -/
def disconnectedText (id : SessionId) : String :=
  s!"Disconnected from debug session: {id}"

/-- What a disconnection tells, by the session that it has closed. -/
def disconnectionResult : Option SessionId → Except ToolFailure String
  | some id => .ok (disconnectedText id)
  | none => .error (.refused "No active debug session")

theorem attachedText_injective (arguments : Json) :
    Function.Injective (attachedText arguments) := by
  intro id other same
  exact (String.append_right_inj _).1 ((String.append_left_inj _).1 same)

theorem disconnectionResult_injective : Function.Injective disconnectionResult := by
  intro closed other same
  cases closed with
  | none =>
      cases other with
      | none => rfl
      | some other => cases same
  | some id =>
      cases other with
      | none => cases same
      | some other =>
          have texts : disconnectedText id = disconnectedText other := Except.ok.inj same
          exact congrArg some ((String.append_right_inj _).1 texts)

end Tool

section

variable {World α β : Type} (surroundings : Surroundings World)

namespace Host

/-- How a tool ends when a request uses it, and the host afterwards. -/
def carryOut (token : Token) (tool : Tool α) (host : Host World) :
    Except ToolFailure α × Host World :=
  tool.run.run (answer surroundings token) host

/-- Whichever request uses the tool, from a session table on it ends in a wanted way, and it leaves
a wanted session table. -/
def Concludes (tool : Tool α) (table : SessionTable LinkId)
    (wanted : Except ToolFailure α → SessionTable LinkId → Prop) : Prop :=
  ∀ token host, host.sessions = table →
    wanted (carryOut surroundings token tool host).1
      (carryOut surroundings token tool host).2.sessions

variable {surroundings} {table : SessionTable LinkId}
  {wanted : Except ToolFailure β → SessionTable LinkId → Prop}

theorem carryOut_lift_bind
    (token : Token) (handling : Handling α) (onward : α → Tool β) (host : Host World) :
    carryOut surroundings token (Tool.lift handling >>= onward) host =
      carryOut surroundings token
        (onward (handling.run (answer surroundings token) host).1)
        (handling.run (answer surroundings token) host).2 := by
  rw [carryOut, ExceptT.run_bind, Tool.lift, ExceptT.run_lift, bind_map_left, Dialogue.run_bind]
  rfl

/-- An operation on the session table is carried out on that of the host. -/
theorem run_onSessions
    (token : Token) (operation : SessionTable.Operation LinkId α) (host : Host World) :
    (Handling.onSessions operation).run (answer surroundings token) host =
      ((operation.run SessionTable.apply host.sessions).1,
        { host with sessions := (operation.run SessionTable.apply host.sessions).2 }) := by
  induction operation generalizing host with
  | done result => rfl
  | ask step next ih => exact ih _ _

namespace Concludes

theorem pure {value : β} (holds : wanted (.ok value) table) :
    Concludes surroundings (Pure.pure value) table wanted := by
  rintro token host rfl
  exact holds

theorem throw {failure : ToolFailure} (holds : wanted (.error failure) table) :
    Concludes surroundings (MonadExcept.throw failure : Tool β) table wanted := by
  rintro token host rfl
  exact holds

/-- What comes after something that cannot be refused and leaves the sessions alone. -/
theorem lift_bind
    {handling : Handling α} {onward : α → Tool β}
    (kept : ∀ token (host : Host World),
      (handling.run (answer surroundings token) host).2.sessions = host.sessions)
    (rest : ∀ result, Concludes surroundings (onward result) table wanted) :
    Concludes surroundings (Tool.lift handling >>= onward) table wanted := by
  rintro token host rfl
  rw [carryOut_lift_bind]
  exact rest _ token _ (kept token host)

theorem act_bind
    {action : Action} {onward : action.Answer → Tool β}
    (kept : ∀ token (host : Host World),
      (act surroundings token action host).2.sessions = host.sessions)
    (rest : ∀ result, Concludes surroundings (onward result) table wanted) :
    Concludes surroundings (Tool.lift (Handling.act action) >>= onward) table wanted :=
  lift_bind (fun token host => kept token host) rest

theorem overLink_bind
    {link : LinkId} {errand : Remote.Errand α} {onward : Except Halt α → Tool β}
    (rest : ∀ result, Concludes surroundings (onward result) table wanted) :
    Concludes surroundings (Tool.lift (Handling.overLink link errand) >>= onward) table wanted := by
  apply lift_bind _ rest
  intro token host
  rw [Handling.overLink]
  induction errand.run generalizing host with
  | done result => rfl
  | ask request next ih => exact ih _ _

/-- What comes after a call over a link, whatever the call is told. -/
theorem attempt_bind
    {link : LinkId} {call : Call α} {onward : Except ClientError α → Tool β}
    (rest : ∀ result, Concludes surroundings (onward result) table wanted) :
    Concludes surroundings (Tool.attempt link call >>= onward) table wanted := by
  have asked : Tool.attempt link call =
      Tool.lift (Handling.act (.overLink link (.send call.order))) >>= fun reply =>
        Pure.pure (reply.bind call.conclude) := rfl
  rw [asked, bind_assoc]
  apply act_bind
  · intro token host
    rfl
  · intro reply
    rw [pure_bind]
    exact rest _

/-- What comes after an operation on the session table. -/
theorem onSessions_bind
    {operation : SessionTable.Operation LinkId α} {onward : α → Tool β}
    (rest : Concludes surroundings (onward (operation.run SessionTable.apply table).1)
      (operation.run SessionTable.apply table).2 wanted) :
    Concludes surroundings (Tool.lift (Handling.onSessions operation) >>= onward) table wanted := by
  rintro token host rfl
  rw [carryOut_lift_bind, run_onSessions]
  exact rest token _ rfl

end Concludes

/-- An attachment fails and leaves the sessions alone, or it puts a session into the table and
makes it the current one. -/
theorem concludes_attach
    (surroundings : Surroundings World) (arguments : Json) (table : SessionTable LinkId) :
    Concludes surroundings (Tool.attach arguments) table fun result after =>
      (∃ failure, result = .error failure ∧ after = table) ∨
        ∃ id link, result = .ok (Tool.attachedText arguments id) ∧
          after = ⟨table.sessions.insert id link, some id⟩ := by
  rw [Tool.attach]
  dsimp only
  split
  · exact .throw (.inl ⟨_, rfl, rfl⟩)
  · apply Concludes.act_bind
    · intro token host
      rfl
    · intro connected
      cases connected with
      | error error => exact .throw (.inl ⟨_, rfl, rfl⟩)
      | ok link =>
          apply Concludes.overLink_bind
          intro checked
          match checked with
          | .error (.failed error) =>
              apply Concludes.act_bind
              · intro token host
                rfl
              · intro _
                exact .throw (.inl ⟨_, rfl, rfl⟩)
          | .error .exhausted => exact .throw (.inl ⟨_, rfl, rfl⟩)
          | .error .aborted => exact .throw (.inl ⟨_, rfl, rfl⟩)
          | .ok () =>
              apply Concludes.act_bind
              · intro token host
                rfl
              · intro id
                apply Concludes.onSessions_bind
                exact .pure (.inr ⟨id, link, rfl, rfl⟩)

/-- A disconnection closes the current session, if there is one, and leaves none current. -/
theorem concludes_disconnect
    (surroundings : Surroundings World) (table : SessionTable LinkId) :
    Concludes surroundings Tool.disconnect table fun result after =>
      result = Tool.disconnectionResult table.current ∧ after.current = none ∧
        ∀ id, after.sessions.find? id =
          if table.current = some id then none else table.sessions.find? id := by
  have looked : SessionTable.currentId.run SessionTable.apply table = (table.current, table) := rfl
  rw [Tool.disconnect]
  apply Concludes.onSessions_bind
  rw [looked]
  cases current : table.current with
  | none => exact .throw ⟨rfl, current, fun id => rfl⟩
  | some id =>
      have closed : (SessionTable.close id).run SessionTable.apply table =
          (table.sessions.find? id, ⟨table.sessions.erase id, none⟩) := by
        show (_, if table.current = some id then _ else _) = _
        rw [if_pos current]
        rfl
      have erased : ∀ other, (table.sessions.erase id).find? other =
          if some id = some other then none else table.sessions.find? other := by
        intro other
        split
        · next same => rw [Option.some.inj same, Table.find?_erase_self]
        · next differs =>
            exact Table.find?_erase_ne _ fun same => differs (congrArg some same.symm)
      apply Concludes.onSessions_bind
      rw [closed]
      dsimp only
      cases table.sessions.find? id with
      | none => exact .pure ⟨rfl, rfl, erased⟩
      | some link =>
          apply Concludes.attempt_bind
          intro told
          apply Concludes.act_bind
          · intro token host
            rfl
          · intro _
            exact .pure ⟨rfl, rfl, erased⟩

end Host

end

end FrameEval.Server
