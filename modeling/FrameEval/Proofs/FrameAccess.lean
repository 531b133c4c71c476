import FrameEval.Proofs.Evaluation.Turn
import FrameEval.Session.Binding

/-!
# Accesses to the frame

The id of a frame is worth nothing once its thread has run, so an evaluation fetches the frame
again after each invocation.  `Current` says what this achieves: the id was returned by the most
recent fetch, which was one of the bound depth and found the method of the binding there, and
since then nothing has run.  Every access of a run is made by such an id.
-/

namespace FrameEval

open Dialogue Evaluation Wire

namespace Evaluation

/-- An exchange by which no frame is fetched and nothing runs. -/
def Quiet (exchange : Exchange Inquiry.Answer) : Prop :=
  ∀ operation, exchange.1 = .operation operation →
    operation.fetchesFrame = false ∧ operation.runsCode = false

/-- The most recent fetch returned an id for the bound frame, and since then nothing has run. -/
def Current (binding : Binding) (record : Record) (id : FrameId) : Prop :=
  ∃ before info later,
    record = before ++ success (.frame binding.thread binding.depth) info :: later ∧
      info.id = id ∧ info.location.sameMethod binding.location = true ∧
      ∀ exchange ∈ later, Quiet exchange

theorem Current.append
    {binding : Binding} {record : Record} {id : FrameId} {exchange : Exchange Inquiry.Answer}
    (current : Current binding record id) (quiet : Quiet exchange) :
    Current binding (record ++ [exchange]) id := by
  rcases current with ⟨before, info, later, rfl, same, method, still⟩
  refine ⟨before, info, later ++ [exchange], by simp, same, method, ?_⟩
  intro other member
  rcases List.mem_append.1 member with earlier | last
  · exact still other earlier
  · rw [List.mem_singleton.1 last]
    exact quiet

/-- Fetching the frame makes its id current. -/
theorem Invoked.current
    {binding : Binding} {before later : Record} {outcome : InvokeOutcome} {info : FrameInfo}
    (invoked : Invoked binding before outcome info later)
    (same : info.location.sameMethod binding.location = true) (start : Record) :
    Current binding (start ++ later) info.id := by
  rcases invoked.split with ⟨operation, answer, rfl⟩
  exact ⟨start ++ before ++ [success operation answer], info, [], by simp, rfl, same, by simp⟩

/-- A description accesses no frame. -/
theorem Telling.frameAccess?_eq_none
    {setting : Setting} {exception : ObjectHandle} {record : Record} {operation : Operation}
    (telling : Telling setting exception record operation) :
    operation.frameAccess? = none := by
  cases telling with
  | name => rfl
  | wording wording => cases wording <;> rfl
  | text => rfl

/-- The evaluation holds the current id of its frame. -/
def frameRegime (binding : Binding) (start : Record) : Regime where
  asks record inquiry := ∀ operation access, inquiry = .operation operation →
    operation.frameAccess? = some access →
      access.1 = binding.thread ∧ Current binding (start ++ record) access.2
  stops _ _ := True
  holds _ record activation := activation.stack.exception = none ∧
    Current binding (start ++ record) activation.frameId
  thrown _ _ := True

variable {setting : Setting} {start : Record}

theorem frameRegime_asks
    {record : Record} {activation : Activation} {operation : Operation}
    (current : Current setting.binding (start ++ record) activation.frameId)
    (proper : Proper setting record activation operation) :
    (frameRegime setting.binding start).asks record (.operation operation) := by
  rintro _ access ⟨⟩ accesses
  obtain rfl := proper.addressed access accesses
  exact ⟨rfl, current⟩

theorem frameRegime_sound
    (setting : Setting) (start : Record) :
    (frameRegime setting.binding start).Sound setting where
  calm holds := holds.1
  restack stack holds calm _ := ⟨calm, holds.2⟩
  fails _ _ := trivial
  underflows _ _ := trivial
  exhausts _ := trivial
  aborts _ := trivial
  watches := by
    rintro height record activation ⟨calm, current⟩
    constructor
    · rintro operation access ⟨⟩
    · intro answer
      refine ⟨calm, ?_⟩
      rw [← List.append_assoc]
      refine current.append ?_
      rintro operation ⟨⟩
  performs := by
    rintro height record activation operation ⟨calm, current⟩ proper still
    refine ⟨frameRegime_asks current proper, fun answer => ⟨calm, ?_⟩, fun _ => trivial⟩
    rw [← List.append_assoc]
    refine current.append ?_
    rintro _ ⟨⟩
    exact ⟨proper.keepsFrame, still⟩
  runs := by
    rintro height record activation operation ⟨-, current⟩ proper -
    refine ⟨frameRegime_asks current proper, fun answer => ⟨?_, fun _ => trivial,
      fun _ => trivial⟩, fun _ => trivial⟩
    rintro _ access ⟨⟩ accesses
    cases accesses
  resumes := by
    rintro height record activation outcome info later ⟨calm, -⟩ invoked same
    cases outcome with
    | returned value => exact ⟨calm, invoked.current same start⟩
    | threw exception => trivial
  goesStale _ _ _ := trivial
  tells := by
    rintro exception record more operation - telling _ access ⟨⟩ accesses
    rw [telling.frameAccess?_eq_none] at accesses
    cases accesses
  told _ _ := trivial

end Evaluation

/-! ## Bound contexts -/

namespace Session

/-- The exchanges of a session with its target. -/
def inquiries : Dialogue.Record Request.Answer → Evaluation.Record
  | [] => []
  | ⟨.inquiry asked, answer⟩ :: rest => ⟨asked, answer⟩ :: inquiries rest
  | _ :: rest => inquiries rest

/-- A context is bound by two operations: the first finds the frame, the second its variables. -/
theorem context_of_ends_bind
    {thread : ThreadId} {depth : Nat} {record : Dialogue.Record Request.Answer}
    {context : Context} (ends : (bind thread depth).Ends record (.ok context)) :
    ∃ info table,
      inquiries record = [success (.frame thread depth) info,
        success (.variableTable info.location) table] ∧
      context = ⟨⟨thread, depth, info.location,
        SymbolTable.ofVariables table info.location.index⟩, info.id⟩ := by
  cases ends with
  | ask fetched =>
      cases fetched with
      | @ask _ _ frame _ _ rest =>
          cases frame with
          | error halt =>
              cases rest with
              | ask released => cases released
          | ok info =>
              cases rest with
              | @ask _ _ table _ _ last =>
                  cases table with
                  | error halt =>
                      cases last with
                      | ask released => cases released
                  | ok table =>
                      cases last
                      exact ⟨info, table, rfl, rfl⟩

/-- A context stands where the first operation found the frame. -/
theorem ends_bind_ok
    {thread : ThreadId} {depth : Nat} {record : Dialogue.Record Request.Answer}
    {context : Context} (ends : (bind thread depth).Ends record (.ok context)) :
    ∃ info table,
      inquiries record = [success (.frame thread depth) info,
        success (.variableTable info.location) table] ∧
      context.binding.thread = thread ∧ context.binding.depth = depth ∧
      context.binding.location = info.location ∧ context.frameId = info.id := by
  obtain ⟨info, table, inquired, rfl⟩ := context_of_ends_bind ends
  exact ⟨info, table, inquired, rfl, rfl, rfl, rfl⟩

end Session

/-- In a run from a context freshly bound, an access to a frame names the bound thread and the
id that the most recent fetch returned, which asked for the bound depth and found the method of
the binding there; nothing has run since. -/
theorem frame_access_is_current
    {thread : ThreadId} {depth : Nat} {context : Context} {mode : RunMode} {program : Program}
    {bound : Dialogue.Record Session.Request.Answer} {record : Record} {operation : Operation}
    {access : ThreadId × FrameId}
    (binds : (Session.bind thread depth).Ends bound (.ok context))
    (asks : (context.run mode program).Asks record (.operation operation))
    (accesses : operation.frameAccess? = some access) :
    access.1 = thread ∧
      ∃ first table before info later,
        Session.inquiries bound =
          [success (.frame thread depth) first, success (.variableTable first.location) table] ∧
        Session.inquiries bound ++ record =
          before ++ success (.frame thread depth) info :: later ∧
        info.id = access.2 ∧ info.location.sameMethod first.location = true ∧
        ∀ exchange ∈ later, Quiet exchange := by
  rcases Session.ends_bind_ok binds with ⟨first, table, inquired, rfl, rfl, located, identified⟩
  have fresh : Current context.binding (Session.inquiries bound) context.frameId := by
    refine ⟨[], first, [success (.variableTable first.location) table], inquired,
      identified.symm, ?_, ?_⟩
    · rw [located]
      simp [Location.sameMethod]
    · intro exchange member operation asked
      rw [List.mem_singleton.1 member] at asked
      cases asked
      exact ⟨rfl, rfl⟩
  have whole := context.run_meets
    (frameRegime_sound ⟨context.binding, mode.searchLimit⟩ (Session.inquiries bound))
    (Regime.allows_of_uncounted program (fun holds => holds) fun _ _ => trivial)
    ⟨rfl, by simpa using fresh⟩
  obtain ⟨same, before, info, later, split, id, method, quiet⟩ :=
    whole.1 record _ asks operation access rfl accesses
  rw [located] at method
  exact ⟨same, first, table, before, info, later, inquired, split, id, method, quiet⟩

/-- A call, and after it the receiver of the frame. -/
def tickAndReceiver : Program :=
  [.invokeStatic "LTimer;" (.ofArity "tick" 0), .pop, .pushThis]

/-- The binding of a frame with the id seven. -/
def sevenBound : Dialogue.Record Session.Request.Answer :=
  [⟨.acquire 1, ()⟩,
    ⟨.inquiry (.operation (.frame 1 0)), .ok ⟨7, ⟨1, 2, 3, 4⟩⟩⟩,
    ⟨.inquiry (.operation (.variableTable ⟨1, 2, 3, 4⟩)), .ok []⟩]

/-- A call after which the frame has the id nine. -/
def tickToNine : Record :=
  [success (.staticMethod "LTimer;" (.ofArity "tick" 0)) ⟨5, 6, "tick", "()V", true⟩,
    success (.invoke 1 none ⟨5, 6, "tick", "()V", true⟩ []) (.returned .void),
    success (.frame 1 0) ⟨9, ⟨1, 2, 3, 8⟩⟩]

theorem access_after_tick_is_current :
    (Context.run ⟨⟨1, 0, ⟨1, 2, 3, 4⟩, .empty⟩, 7⟩ ⟨false, 5, 0⟩ tickAndReceiver).Asks
        tickToNine (.operation (.thisObject 1 9)) ∧
      ∃ before info later,
        Session.inquiries sevenBound ++ tickToNine =
          before ++ success (.frame 1 0) info :: later ∧ info.id = 9 := by
  have binds : (Session.bind 1 0).Ends sevenBound
      (.ok ⟨⟨1, 0, ⟨1, 2, 3, 4⟩, .empty⟩, 7⟩) := .ask (.ask (.ask .done))
  have asks : (Context.run ⟨⟨1, 0, ⟨1, 2, 3, 4⟩, .empty⟩, 7⟩ ⟨false, 5, 0⟩
      tickAndReceiver).Asks tickToNine (.operation (.thisObject 1 9)) :=
    .later (.later (.later .here))
  obtain ⟨-, first, table, before, info, later, -, split, id, -⟩ :=
    frame_access_is_current binds asks rfl
  exact ⟨asks, before, info, later, split, id⟩

end FrameEval
