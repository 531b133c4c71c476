import FrameEval.Proofs.Histories
import FrameEval.Proofs.Server.ToolEffect

/-!
# Which sessions a disconnection reaches

Attachments and disconnections are handled one after another.  Every attachment makes its session
the current one, and a disconnection only ever closes the current session.  So a session can be
disconnected as long as nothing was called since it was attached.  When another session is attached
before that, the first one stays in the table, and no further call takes it out.
-/

namespace FrameEval.Server

open Wire

/-- What a client learns of the sessions of a server by one call. -/
inductive SessionEvent where
  /-- An attachment was told to have opened a session. -/
  | attached (id : SessionId)
  /-- A disconnection was told which session it has closed, or that there is none to close. -/
  | disconnected (closed : Option SessionId)
  deriving DecidableEq

namespace SessionEvent

/-- The session that was opened. -/
def opened? : SessionEvent → Option SessionId
  | attached id => some id
  | disconnected _ => none

/-- Whether the call was a disconnection. -/
def IsDisconnection (event : SessionEvent) : Prop :=
  event.opened? = none

/-- The sessions that were opened, the first one first. -/
def opened (events : List SessionEvent) : List SessionId :=
  events.filterMap opened?

/-- Whether a session was attached and not disconnected since. -/
def IsOpen (events : List SessionEvent) (id : SessionId) : Prop :=
  attached id ∈ events ∧ disconnected (some id) ∉ events

/-- Whether no session was attached while another one was open. -/
def OneAtATime (events : List SessionEvent) : Prop :=
  ∀ earlier id later, events = earlier ++ attached id :: later → ∀ other, ¬ IsOpen earlier other

variable {events : List SessionEvent} {id other : SessionId} {closed : Option SessionId}

theorem mem_opened_iff : id ∈ opened events ↔ attached id ∈ events := by
  rw [opened, List.mem_filterMap]
  constructor
  · rintro ⟨event, member, opens⟩
    cases event with
    | attached name =>
        cases opens
        exact member
    | disconnected closed => cases opens
  · intro member
    exact ⟨_, member, rfl⟩

@[simp]
theorem opened_append (events more : List SessionEvent) :
    opened (events ++ more) = opened events ++ opened more :=
  List.filterMap_append

/-- A session that is opened anew was not attached before. -/
theorem nodup_opened_attached (distinct : (opened (events ++ [attached id])).Nodup) :
    (opened events).Nodup ∧ attached id ∉ events := by
  rw [opened_append, List.nodup_append] at distinct
  rcases distinct with ⟨before, -, new⟩
  exact ⟨before, fun member => new id (mem_opened_iff.2 member) id (List.mem_singleton_self id) rfl⟩

theorem nodup_opened_disconnected :
    (opened (events ++ [disconnected closed])).Nodup ↔ (opened events).Nodup := by
  rw [opened_append, show opened [disconnected closed] = [] from rfl, List.append_nil]

theorem opened_of_disconnections
    (disconnections : ∀ event ∈ events, event.IsDisconnection) : opened events = [] :=
  List.filterMap_eq_nil_iff.2 disconnections

theorem isOpen_attached_iff :
    IsOpen (events ++ [attached other]) id ↔
      (id = other ∨ attached id ∈ events) ∧ disconnected (some id) ∉ events := by
  simp [IsOpen, or_comm]

theorem isOpen_disconnected_iff :
    IsOpen (events ++ [disconnected closed]) id ↔ IsOpen events id ∧ closed ≠ some id := by
  simp [IsOpen, and_assoc, eq_comm]

theorem OneAtATime.of_concat {event : SessionEvent} (lone : OneAtATime (events ++ [event])) :
    OneAtATime events := by
  rintro earlier id later rfl
  exact lone earlier id (later ++ [event]) (by simp)

end SessionEvent

open SessionEvent

section

variable {World : Type}

namespace Host

/-- Attachments that succeed and disconnections, handled one after another. -/
inductive Serves (surroundings : Surroundings World) (setup : Setup) (first : Host World) :
    List SessionEvent → Host World → Prop where
  | nil : Serves surroundings setup first [] first
  | attach
      {events : List SessionEvent} {host after : Host World}
      {token : Token} {arguments : Json} {id : SessionId}
      (served : Serves surroundings setup first events host)
      (told : carryOut surroundings token (Tool.use setup ToolName.attach arguments) host =
        (.ok (Tool.attachedText arguments id), after)) :
      Serves surroundings setup first (events ++ [attached id]) after
  | disconnect
      {events : List SessionEvent} {host after : Host World}
      {token : Token} {arguments : Json} {closed : Option SessionId}
      (served : Serves surroundings setup first events host)
      (told : carryOut surroundings token (Tool.use setup ToolName.disconnect arguments) host =
        (Tool.disconnectionResult closed, after)) :
      Serves surroundings setup first (events ++ [disconnected closed]) after

/-- Whether further disconnections, and nothing else, would close a session. -/
def CanDisconnect
    (surroundings : Surroundings World) (setup : Setup) (host : Host World) (id : SessionId) :
    Prop :=
  ∃ more after, Serves surroundings setup host more after ∧
    (∀ event ∈ more, event.IsDisconnection) ∧ disconnected (some id) ∈ more

variable {surroundings : Surroundings World} {setup : Setup}
  {first host after : Host World} {events more : List SessionEvent} {id : SessionId}

/-! ## One call -/

theorem use_attach (arguments : Json) :
    Tool.use setup ToolName.attach arguments = Tool.attach arguments := rfl

theorem use_disconnect (arguments : Json) :
    Tool.use setup ToolName.disconnect arguments = Tool.disconnect := rfl

theorem sessions_of_attached
    {token : Token} {arguments : Json}
    (told : carryOut surroundings token (Tool.use setup ToolName.attach arguments) host =
      (.ok (Tool.attachedText arguments id), after)) :
    ∃ link, after.sessions = ⟨host.sessions.sessions.insert id link, some id⟩ := by
  rw [use_attach] at told
  have concludes := concludes_attach surroundings arguments host.sessions token host rfl
  rw [told] at concludes
  rcases concludes with ⟨failure, fails, -⟩ | ⟨name, link, same, changed⟩
  · cases fails
  · rw [← Tool.attachedText_injective arguments (Except.ok.inj same)] at changed
    exact ⟨link, changed⟩

/-- A disconnection closes the current session, if there is one. -/
theorem closed_eq_current
    {token : Token} {arguments : Json} {closed : Option SessionId}
    (told : carryOut surroundings token (Tool.use setup ToolName.disconnect arguments) host =
      (Tool.disconnectionResult closed, after)) :
    closed = host.sessions.current ∧ after.sessions.current = none ∧
      ∀ id, after.sessions.sessions.find? id =
        if closed = some id then none else host.sessions.sessions.find? id := by
  rw [use_disconnect] at told
  have concludes := concludes_disconnect surroundings host.sessions token host rfl
  rw [told] at concludes
  rcases concludes with ⟨result, deselected, erased⟩
  obtain rfl := Tool.disconnectionResult_injective result
  exact ⟨rfl, deselected, erased⟩

/-- A disconnection tells which session was the current one. -/
theorem exists_disconnect
    (surroundings : Surroundings World) (setup : Setup) (host : Host World) (token : Token)
    (arguments : Json) :
    ∃ after, carryOut surroundings token (Tool.use setup ToolName.disconnect arguments) host =
      (Tool.disconnectionResult host.sessions.current, after) := by
  rw [use_disconnect]
  have concludes := concludes_disconnect surroundings host.sessions token host rfl
  exact ⟨_, Prod.ext concludes.1 rfl⟩

namespace Serves

theorem trans
    {middle : Host World} (served : Serves surroundings setup first events middle)
    (onward : Serves surroundings setup middle more host) :
    Serves surroundings setup first (events ++ more) host := by
  induction onward with
  | nil =>
      rw [List.append_nil]
      exact served
  | attach _ told ih =>
      rw [← List.append_assoc]
      exact .attach ih told
  | disconnect _ told ih =>
      rw [← List.append_assoc]
      exact .disconnect ih told

/-! ## The table after a history -/

/-- The session that was attached last is the current one until something is called. -/
theorem current_iff
    (served : Serves surroundings setup first events host) (fresh : first.sessions = .empty) :
    host.sessions.current = some id ↔ events.getLast? = some (attached id) := by
  cases served with
  | nil =>
      rw [fresh]
      constructor <;> rintro ⟨⟩
  | attach _ told =>
      rcases sessions_of_attached told with ⟨link, changed⟩
      rw [changed, List.getLast?_concat, Option.some.injEq, Option.some.injEq,
        SessionEvent.attached.injEq]
  | disconnect _ told =>
      rw [(closed_eq_current told).2.1, List.getLast?_concat]
      constructor <;> rintro ⟨⟩

/-- Only an attached session is told to be closed. -/
theorem attached_of_closed
    (served : Serves surroundings setup first events host) (fresh : first.sessions = .empty)
    (closed : disconnected (some id) ∈ events) : attached id ∈ events := by
  induction served with
  | nil => cases closed
  | attach _ _ ih =>
      rcases List.mem_append.1 closed with before | now
      · exact List.mem_append_left _ (ih before)
      · cases List.mem_singleton.1 now
  | disconnect served told ih =>
      rcases List.mem_append.1 closed with before | now
      · exact List.mem_append_left _ (ih before)
      · cases List.mem_singleton.1 now
        have last := (served.current_iff fresh).1 (closed_eq_current told).1.symm
        exact List.mem_append_left _ (List.mem_of_getLast? last)

/-- The table holds the open sessions. -/
theorem kept_iff
    (served : Serves surroundings setup first events host) (fresh : first.sessions = .empty)
    (distinct : (opened events).Nodup) :
    (∃ link, host.sessions.sessions.find? id = some link) ↔ IsOpen events id := by
  induction served generalizing id with
  | nil =>
      rw [fresh]
      constructor
      · rintro ⟨link, ⟨⟩⟩
      · rintro ⟨⟨⟩, -⟩
  | @attach events host after token arguments name served told ih =>
      rcases nodup_opened_attached distinct with ⟨before, unopened⟩
      rcases sessions_of_attached told with ⟨link, changed⟩
      rw [changed, isOpen_attached_iff]
      by_cases same : id = name
      · subst same
        refine iff_of_true ⟨link, Table.find?_insert_self _ _ _⟩ ⟨.inl rfl, fun closed => ?_⟩
        exact unopened (served.attached_of_closed fresh closed)
      · rw [Table.find?_insert_ne _ _ same, ih before, SessionEvent.IsOpen,
          or_iff_right same]
  | disconnect served told ih =>
      rw [nodup_opened_disconnected] at distinct
      rw [(closed_eq_current told).2.2 id, isOpen_disconnected_iff, ← ih distinct]
      split
      · next same => simp [same]
      · next differs => simp [differs]

/-! ## What further calls reach -/

/-- Unless it was attached last, an open session stays open whatever is called. -/
theorem isOpen_of_stranded
    (served : Serves surroundings setup first events host) (fresh : first.sessions = .empty)
    (onward : Serves surroundings setup host more after)
    (distinct : (opened (events ++ more)).Nodup)
    (isOpen : IsOpen events id) (earlier : events.getLast? ≠ some (attached id)) :
    IsOpen (events ++ more) id ∧ (events ++ more).getLast? ≠ some (attached id) := by
  induction onward with
  | nil =>
      rw [List.append_nil]
      exact ⟨isOpen, earlier⟩
  | @attach more host after token arguments name onward told ih =>
      rw [← List.append_assoc] at distinct ⊢
      rcases nodup_opened_attached distinct with ⟨before, unopened⟩
      rcases ih before with ⟨⟨member, open'⟩, -⟩
      refine ⟨isOpen_attached_iff.2 ⟨.inr member, open'⟩, ?_⟩
      rw [List.getLast?_concat]
      rintro ⟨⟩
      exact unopened member
  | @disconnect more host after token arguments closed onward told ih =>
      rw [← List.append_assoc] at distinct ⊢
      rw [nodup_opened_disconnected] at distinct
      rcases ih distinct with ⟨open', last⟩
      refine ⟨isOpen_disconnected_iff.2 ⟨open', fun same => last ?_⟩, ?_⟩
      · rw [← (served.trans onward).current_iff fresh, ← (closed_eq_current told).1, same]
      · rw [List.getLast?_concat]
        rintro ⟨⟩

/-- Disconnections open no session. -/
theorem nodup_of_disconnections
    (distinct : (opened events).Nodup) (disconnections : ∀ event ∈ more, event.IsDisconnection) :
    (opened (events ++ more)).Nodup := by
  rw [opened_append, opened_of_disconnections disconnections, List.append_nil]
  exact distinct

/-- Of the open sessions, disconnections reach the one that was attached last. -/
theorem canDisconnect_iff
    (served : Serves surroundings setup first events host) (fresh : first.sessions = .empty)
    (distinct : (opened events).Nodup) (isOpen : IsOpen events id) :
    CanDisconnect surroundings setup host id ↔ events.getLast? = some (attached id) := by
  constructor
  · rintro ⟨more, after, onward, disconnections, closed⟩
    by_contra earlier
    have stranded := served.isOpen_of_stranded fresh onward
      (nodup_of_disconnections distinct disconnections) isOpen earlier
    exact stranded.1.2 (List.mem_append_right _ closed)
  · intro last
    rcases exists_disconnect surroundings setup host 0 .null with ⟨after, told⟩
    rw [(served.current_iff fresh).2 last] at told
    refine ⟨_, after, .disconnect .nil told, ?_, List.mem_singleton_self _⟩
    intro event member
    rw [List.mem_singleton.1 member]
    rfl

/-- If sessions are attached one at a time, only the one attached last is open. -/
theorem last_of_oneAtATime
    (served : Serves surroundings setup first events host) (fresh : first.sessions = .empty)
    (lone : OneAtATime events) (isOpen : IsOpen events id) :
    events.getLast? = some (attached id) := by
  induction served generalizing id with
  | nil => cases isOpen.1
  | @attach events host after token arguments name served told ih =>
      rw [List.getLast?_concat]
      rcases isOpen_attached_iff.1 isOpen with ⟨rfl | before, open'⟩
      · rfl
      · exact (lone events name [] rfl id ⟨before, open'⟩).elim
  | disconnect served told ih =>
      rcases isOpen_disconnected_iff.1 isOpen with ⟨open', differs⟩
      have current := (served.current_iff fresh).2 (ih lone.of_concat open')
      exact (differs ((closed_eq_current told).1.trans current)).elim

/-- If sessions are attached one at a time, one disconnection leaves none open. -/
theorem not_isOpen_of_disconnections
    (served : Serves surroundings setup first events host) (fresh : first.sessions = .empty)
    (lone : OneAtATime events) (onward : Serves surroundings setup host more after)
    (disconnections : ∀ event ∈ more, event.IsDisconnection) (some' : more ≠ []) :
    ¬ IsOpen (events ++ more) id := by
  induction onward with
  | nil => exact (some' rfl).elim
  | attach _ _ _ =>
      cases disconnections _ (List.mem_append_right _ (List.mem_singleton_self _))
  | @disconnect more host after token arguments closed onward told ih =>
      rw [← List.append_assoc, isOpen_disconnected_iff]
      rintro ⟨isOpen, differs⟩
      by_cases none : more = []
      · subst none
        rw [List.append_nil] at isOpen
        have last := served.last_of_oneAtATime fresh lone isOpen
        have current := ((served.trans onward).current_iff fresh).2 (by rwa [List.append_nil])
        exact differs ((closed_eq_current told).1.trans current)
      · exact ih (fun event member => disconnections event (List.mem_append_left _ member)) none
          isOpen

end Serves

/-! ## The reach of disconnections -/

/-- Which sessions are in the table of a host after a history, and which of them further calls take
out of it. -/
structure SessionReach
    (surroundings : Surroundings World) (setup : Setup) (events : List SessionEvent)
    (host : Host World) : Prop where
  /-- The table holds the sessions that were attached and not disconnected. -/
  kept : ∀ id, (∃ link, host.sessions.sessions.find? id = some link) ↔ IsOpen events id
  /-- Disconnections reach the one that was attached last, if nothing was called since. -/
  reached : ∀ id, IsOpen events id →
    (CanDisconnect surroundings setup host id ↔ events.getLast? = some (attached id))
  /-- No other one is taken out by anything that is called. -/
  stranded : ∀ id, IsOpen events id → events.getLast? ≠ some (attached id) →
    ∀ more after, Serves surroundings setup host more after → (opened (events ++ more)).Nodup →
      ∃ link, after.sessions.sessions.find? id = some link
  /-- If no session was attached while another one was open, every open session is reached, and as
  many disconnections as there were attachments leave no session in the table. -/
  cleared : OneAtATime events →
    (∀ id, IsOpen events id → CanDisconnect surroundings setup host id) ∧
      ∀ more after, Serves surroundings setup host more after →
        (∀ event ∈ more, event.IsDisconnection) → (opened events).length ≤ more.length →
          ∀ id, after.sessions.sessions.find? id = none

/-- A disconnection reaches a session as long as nothing was called since it was attached. -/
theorem last_session_is_reached
    (served : Serves surroundings setup first events host) (fresh : first.sessions = .empty)
    (distinct : (opened events).Nodup) :
    SessionReach surroundings setup events host where
  kept id := served.kept_iff fresh distinct
  reached id isOpen := served.canDisconnect_iff fresh distinct isOpen
  stranded := by
    intro id isOpen earlier more after onward distinct
    apply ((served.trans onward).kept_iff fresh distinct).2
    exact (served.isOpen_of_stranded fresh onward distinct isOpen earlier).1
  cleared := by
    intro lone
    constructor
    · intro id isOpen
      exact (served.canDisconnect_iff fresh distinct isOpen).2
        (served.last_of_oneAtATime fresh lone isOpen)
    · intro more after onward disconnections enough id
      have distinct' := Serves.nodup_of_disconnections distinct disconnections
      rw [Option.eq_none_iff_forall_ne_some]
      intro link found
      have isOpen := ((served.trans onward).kept_iff fresh distinct').1 ⟨link, found⟩
      have some' : more ≠ [] := by
        rintro rfl
        rw [List.append_nil] at isOpen
        have opens := mem_opened_iff.2 isOpen.1
        rw [List.eq_nil_of_length_eq_zero (Nat.le_zero.1 enough)] at opens
        cases opens
      exact served.not_isOpen_of_disconnections fresh lone onward disconnections some' isOpen

/-! ## Two attachments -/

/-- What a target says when it is attached: its version and the sizes of its ids. -/
def greeting (order : Order) : Bytes :=
  if order.command = 1 then
    Writer.text "" ++ Writer.int32 1 ++ Writer.int32 8 ++ Writer.text "" ++ Writer.text ""
  else if order.command = 7 then (List.replicate 5 (Writer.int32 8)).flatten
  else []

/-- A world in which every target can be attached, with the names for sessions to come. -/
def greeters : Surroundings (List SessionId) where
  connect _ _ _ names := (.ok names.length, names)
  discard _ names := names
  overLink _ request names :=
    match request with
    | .send order => (.ok ⟨0, 0, greeting order⟩, names)
    | .enter _ => ((), names)
    | .leave _ => ((), names)
    | .lookUp _ => (none, names)
    | .remember _ _ => ((), names)
  freshSessionId names := (names.headD "", names.tail)

/-- A server that runs no programs, and does not say why it refuses what it cannot decode. -/
def idleSetup : Setup := ⟨0, 0, fun _ _ => ""⟩

/-- How a tool of that world leaves the host. -/
def greeted (name : String) (host : Host (List SessionId)) : Host (List SessionId) :=
  (carryOut greeters 0 (Tool.use idleSetup name .null) host).2

/-- One target is attached, and then another one. -/
def twiceAttached : Host (List SessionId) :=
  greeted ToolName.attach (greeted ToolName.attach (fresh ["a", "b"]))

theorem serves_twiceAttached :
    Serves greeters idleSetup (fresh ["a", "b"]) [attached "a", attached "b"] twiceAttached := by
  have one : Serves greeters idleSetup (fresh ["a", "b"]) [attached "a"]
      (greeted ToolName.attach (fresh ["a", "b"])) :=
    .attach .nil (Prod.ext rfl rfl)
  exact .attach one (Prod.ext rfl rfl)

theorem greeted_disconnect (host : Host (List SessionId)) :
    carryOut greeters 0 (Tool.use idleSetup ToolName.disconnect .null) host =
      (Tool.disconnectionResult host.sessions.current, greeted ToolName.disconnect host) := by
  rcases exists_disconnect greeters idleSetup host 0 .null with ⟨after, told⟩
  rw [greeted, told]

/-- The session that was attached last is reached. -/
theorem later_session_is_reached :
    SessionReach greeters idleSetup [attached "a", attached "b"] twiceAttached ∧
      CanDisconnect greeters idleSetup twiceAttached "b" := by
  have reach : SessionReach greeters idleSetup [attached "a", attached "b"] twiceAttached :=
    last_session_is_reached serves_twiceAttached rfl (by decide)
  exact ⟨reach, (reach.reached "b" ⟨by decide, by decide⟩).2 rfl⟩

/-- Two disconnections after two attachments leave the session that was attached first in the
table, and no number of them would take it out. -/
theorem first_session_is_stranded :
    Serves greeters idleSetup (fresh ["a", "b"]) [attached "a", attached "b"] twiceAttached ∧
      IsOpen [attached "a", attached "b"] "a" ∧
      ¬ CanDisconnect greeters idleSetup twiceAttached "a" ∧
      ∃ after, Serves greeters idleSetup twiceAttached [disconnected (some "b"), disconnected none]
          after ∧
        after.sessions.sessions.find? "a" = some 2 := by
  have isOpen : IsOpen [attached "a", attached "b"] "a" := ⟨by decide, by decide⟩
  refine ⟨serves_twiceAttached, isOpen, ?_, _,
    .disconnect (.disconnect .nil (greeted_disconnect twiceAttached)) (greeted_disconnect _), rfl⟩
  intro reached
  have last := (serves_twiceAttached.canDisconnect_iff rfl (by decide) isOpen).1 reached
  exact absurd last (by decide)

end Host

end

end FrameEval.Server
