import FrameEval.Proofs.EventDelivery
import FrameEval.Proofs.Remote.Scopes

/-!
# The traffic between an errand and the target

An errand that makes an invocation runs beside everything else that happens: other callers use
the link, the switchboard takes commands and packets when it gets to them, and the target
receives commands and sends packets.  Between the switchboard and the target there are two
queues, in which commands and packets keep their order.

The invariant is that the running invocations which the switchboard counts are the scopes of
the errand and those of the others, and that the errand holds one scope on its thread between
entering and leaving it, and none before and after.
-/

namespace FrameEval.Link

open Wire

/-! ## Counts -/

/-- The order of the running invocations does not matter. -/
theorem InvokingThreads.Counts.of_perm
    {threads : InvokingThreads} {live other : List ThreadId} (counts : threads.Counts live)
    (same : live.Perm other) : threads.Counts other := by
  intro thread
  rw [counts thread, same.count_eq]
  simp only [same.mem_iff]

/-! ## Traffic -/

/-- How far the present call of an errand has come. -/
inductive Calling where
  | idle
  /-- The command has its id. -/
  | drafted (id : PacketId)
  /-- The command was handed over, and its result is waited for. -/
  | waiting (id : PacketId)

/-- A packet of the target on its way. -/
structure Sent where
  packet : Packet
  /-- Whether the target had not received the invocation when it sent the packet. -/
  early : Bool

/-- An errand, the switchboard, and what is on its way between it and the target. -/
structure Traffic (α : Type) where
  board : Switchboard
  /-- The commands on their way to the target, the oldest first. -/
  outbound : List Command
  /-- The packets on their way to the switchboard, the oldest first. -/
  inbound : List Sent
  /-- What is left of the errand. -/
  rest : Dialogue Remote.Request Remote.Request.Answer α
  calling : Calling
  /-- The id of the first command of the errand, which makes the invocation. -/
  invocation : Option PacketId
  /-- Whether the target has received that command. -/
  received : Bool
  /-- The scopes that the errand has entered and not left. -/
  held : List ThreadId
  /-- The scopes that others have entered and not left. -/
  others : List ThreadId

/-- The result of a command that an effect tells. -/
def Effect.result? (id : PacketId) : Effect → Option (Except ClientError Reply)
  | .conclude other result => if other = id then some result else none
  | _ => none

/-- The command that an effect writes. -/
def Effect.written? : Effect → Option Command
  | .write command => some command
  | _ => none

namespace Traffic

variable {α : Type}

def fresh (capacity : Nat) (errand : Dialogue Remote.Request Remote.Request.Answer α) :
    Traffic α where
  board := .fresh capacity
  outbound := []
  inbound := []
  rest := errand
  calling := .idle
  invocation := none
  received := false
  held := []
  others := []

/-- What happens. -/
inductive Happening where
  /-- The errand goes on; it may recall what is known about a type. -/
  | proceed (known : Option Remote.TypeMetadata)
  /-- Another caller, or the switchboard, does something. -/
  | link (happening : Link.Happening)
  /-- Another caller enters a scope. -/
  | enter (thread : ThreadId)
  /-- Another caller leaves a scope of its own. -/
  | leave (thread : ThreadId)
  /-- The switchboard takes a packet; so many commands can be written on account of it. -/
  | arrive (writable : Nat)
  /-- The target receives a command. -/
  | deliver
  /-- The target sends a packet. -/
  | emit (packet : Packet)

/-- Tell the errand the result of the command it waits for. -/
def answer (effects : List Effect) (traffic : Traffic α) : Traffic α :=
  match traffic.calling, traffic.rest with
  | .waiting id, .ask (.send _) next =>
      match effects.findSome? (Effect.result? id) with
      | some result => { traffic with rest := next result, calling := .idle }
      | none => traffic
  | _, _ => traffic

/-- Something happens to the switchboard. -/
def onLink (happening : Link.Happening) (traffic : Traffic α) : Traffic α :=
  let (board, effects) := traffic.board.step happening
  { traffic with
    board := board
    outbound := traffic.outbound ++ effects.filterMap Effect.written? }.answer effects

/-- The errand goes on until it has to wait. -/
def proceed (known : Option Remote.TypeMetadata) (traffic : Traffic α) : Traffic α :=
  match traffic.rest with
  | .done _ => traffic
  | .ask (.enter thread) next =>
      { traffic with rest := next (), held := thread :: traffic.held }.onLink (.enter thread)
  | .ask (.leave thread) next =>
      { traffic with rest := next (), held := traffic.held.erase thread }.onLink (.leave thread)
  | .ask (.lookUp _) next => { traffic with rest := next known }
  | .ask (.remember _ _) next => { traffic with rest := next () }
  | .ask (.send order) _ =>
      match traffic.calling with
      | .idle =>
          { traffic with
            calling := .drafted traffic.board.nextId
            invocation := traffic.invocation.or (some traffic.board.nextId) }.onLink (.draft order)
      | .drafted id => { traffic with calling := .waiting id }.onLink (.submit id)
      | .waiting _ => traffic

/-- Whether a happening at the link is neither a packet nor about a scope. -/
def isPlain : Link.Happening → Bool
  | .arrive _ _ => false
  | .enter _ => false
  | .leave _ => false
  | _ => true

/-- What a happening does. -/
def step (traffic : Traffic α) : Happening → Traffic α
  | .proceed known => traffic.proceed known
  | .link happening => if isPlain happening then traffic.onLink happening else traffic
  | .enter thread =>
      { traffic with others := thread :: traffic.others }.onLink (.enter thread)
  | .leave thread =>
      if thread ∈ traffic.others then
        { traffic with others := traffic.others.erase thread }.onLink (.leave thread)
      else traffic
  | .arrive writable =>
      match traffic.inbound with
      | [] => traffic
      | sent :: later => { traffic with inbound := later }.onLink (.arrive sent.packet writable)
  | .deliver =>
      match traffic.outbound with
      | [] => traffic
      | command :: later =>
          { traffic with
            outbound := later
            received := traffic.received || traffic.invocation = some command.id }
  | .emit packet =>
      { traffic with inbound := traffic.inbound ++ [⟨packet, !traffic.received⟩] }

/-- What happenings do, one after another. -/
def run (traffic : Traffic α) (happenings : List Happening) : Traffic α :=
  happenings.foldl step traffic

/-! ## The scopes -/

/-- The scopes that the errand holds at each point of its course. -/
inductive Course (thread : ThreadId) (traffic : Traffic α) : Prop where
  | before (held : traffic.held = []) (rest : Remote.Invocation thread traffic.rest)
  | within (held : traffic.held = [thread]) (rest : Remote.Inside thread traffic.rest)
  | after (held : traffic.held = []) (rest : Remote.Plain traffic.rest)

/-- The switchboard counts the scopes of the errand and of the others. -/
structure Scoped (thread : ThreadId) (traffic : Traffic α) : Prop where
  counts : traffic.board.invoking.Counts (traffic.held ++ traffic.others)
  course : Course thread traffic

theorem scoped_fresh
    (capacity : Nat) {thread : ThreadId}
    {errand : Dialogue Remote.Request Remote.Request.Answer α}
    (invokes : Remote.Invocation thread errand) : Scoped thread (fresh capacity errand) where
  counts := InvokingThreads.counts_empty
  course := .before rfl invokes

section

variable {thread : ThreadId} {traffic : Traffic α}

/-- A request that marks nothing leaves the errand where it is in its course. -/
theorem Course.advance
    (course : Course thread traffic) {request : Remote.Request}
    {next : request.Answer → Dialogue Remote.Request Remote.Request.Answer α}
    (asks : traffic.rest = .ask request next) (silent : request.marks = false)
    {later : Traffic α} (answer : request.Answer) (goes : later.rest = next answer)
    (held : later.held = traffic.held) : Course thread later := by
  cases course with
  | before none rest =>
      rw [asks] at rest
      cases rest
      cases silent
  | within one rest =>
      rw [asks] at rest
      cases rest with
      | ask _ onward =>
          apply Course.within (held.trans one)
          rw [goes]
          exact onward answer
      | leave _ => cases silent
  | after none rest =>
      rw [asks] at rest
      cases rest with
      | ask _ onward =>
          apply Course.after (held.trans none)
          rw [goes]
          exact onward answer

/-- Only the errand and its scopes matter. -/
theorem Course.of_eq
    (course : Course thread traffic) {later : Traffic α} (rest : later.rest = traffic.rest)
    (held : later.held = traffic.held) : Course thread later := by
  cases course with
  | before none invokes => exact .before (held.trans none) (rest ▸ invokes)
  | within one inside => exact .within (held.trans one) (rest ▸ inside)
  | after none plain => exact .after (held.trans none) (rest ▸ plain)

theorem Course.answer
    (course : Course thread traffic) (effects : List Effect) :
    Course thread (traffic.answer effects) := by
  rw [Traffic.answer]
  split
  · next id order next waits asks =>
      split
      · next result told => exact course.advance asks rfl result rfl rfl
      · exact course
  · exact course

@[simp]
theorem held_answer (effects : List Effect) : (traffic.answer effects).held = traffic.held := by
  rw [Traffic.answer]
  repeat' split
  all_goals rfl

@[simp]
theorem others_answer (effects : List Effect) :
    (traffic.answer effects).others = traffic.others := by
  rw [Traffic.answer]
  repeat' split
  all_goals rfl

@[simp]
theorem board_answer (effects : List Effect) :
    (traffic.answer effects).board = traffic.board := by
  rw [Traffic.answer]
  repeat' split
  all_goals rfl

@[simp]
theorem board_onLink (happening : Link.Happening) :
    (traffic.onLink happening).board = (traffic.board.step happening).1 := by
  rw [onLink, board_answer]

@[simp]
theorem held_onLink (happening : Link.Happening) :
    (traffic.onLink happening).held = traffic.held := by
  rw [onLink, held_answer]

@[simp]
theorem others_onLink (happening : Link.Happening) :
    (traffic.onLink happening).others = traffic.others := by
  rw [onLink, others_answer]

theorem Course.onLink
    (course : Course thread traffic) (happening : Link.Happening) :
    Course thread (traffic.onLink happening) := by
  rw [Traffic.onLink]
  apply Course.answer
  exact course.of_eq rfl rfl

/-- A happening at the link keeps the counts if the scopes changed as it tells. -/
theorem Scoped.onLink
    {happening : Link.Happening} {live : List ThreadId} (course : Course thread traffic)
    (counts : traffic.board.invoking.Counts live)
    (counted : (Entry.invocations live (traffic.board.entry happening)).Perm
      (traffic.held ++ traffic.others)) :
    Scoped thread (traffic.onLink happening) where
  counts := by
    rw [board_onLink, held_onLink, others_onLink]
    apply InvokingThreads.Counts.of_perm _ counted
    exact (traffic.board.step_change happening).counts counts traffic.board.nextId
  course := course.onLink happening

/-- Most happenings at the link are not about scopes. -/
theorem invocations_of_isPlain
    {happening : Link.Happening} (plain : isPlain happening = true) (live : List ThreadId)
    (board : Switchboard) : Entry.invocations live (board.entry happening) = live := by
  cases happening with
  | enter _ => cases plain
  | leave _ => cases plain
  | _ => rfl

/-- The errand enters its scope once, at its beginning. -/
theorem Course.entering
    (course : Course thread traffic) {entered : ThreadId}
    {next : Unit → Dialogue Remote.Request Remote.Request.Answer α}
    (asks : traffic.rest = .ask (.enter entered) next) :
    entered = thread ∧ traffic.held = [] ∧ Remote.Inside thread (next ()) := by
  cases course with
  | before none rest =>
      rw [asks] at rest
      cases rest with
      | enter onward => exact ⟨rfl, none, onward⟩
  | within one rest =>
      rw [asks] at rest
      cases rest with
      | ask silent _ => cases silent
  | after none rest =>
      rw [asks] at rest
      cases rest with
      | ask silent _ => cases silent

/-- What the errand leaves is the scope that it holds. -/
theorem Course.leaving
    (course : Course thread traffic) {left : ThreadId}
    {next : Unit → Dialogue Remote.Request Remote.Request.Answer α}
    (asks : traffic.rest = .ask (.leave left) next) :
    left = thread ∧ traffic.held = [thread] ∧ Remote.Plain (next ()) := by
  cases course with
  | before none rest =>
      rw [asks] at rest
      cases rest
  | within one rest =>
      rw [asks] at rest
      cases rest with
      | ask silent _ => cases silent
      | leave onward => exact ⟨rfl, one, onward⟩
  | after none rest =>
      rw [asks] at rest
      cases rest with
      | ask silent _ => cases silent

theorem Scoped.proceed
    (kept : Scoped thread traffic) (known : Option Remote.TypeMetadata) :
    Scoped thread (traffic.proceed known) := by
  rcases kept with ⟨counts, course⟩
  rw [Traffic.proceed]
  split
  · exact ⟨counts, course⟩
  · next entered next asks =>
      rcases course.entering asks with ⟨rfl, none, inside⟩
      refine Scoped.onLink (.within ?_ inside) counts (.refl _)
      show entered :: traffic.held = [entered]
      rw [none]
  · next left next asks =>
      rcases course.leaving asks with ⟨rfl, one, plain⟩
      have gone : traffic.held.erase left = [] := by rw [one, List.erase_cons_head]
      refine Scoped.onLink (.after gone plain) counts ?_
      show ((traffic.held ++ traffic.others).erase left).Perm _
      rw [List.erase_append_left _ (by rw [one]; exact List.mem_singleton_self left)]
  · next next asks => exact ⟨counts, course.advance asks rfl known rfl rfl⟩
  · next next asks => exact ⟨counts, course.advance asks rfl () rfl rfl⟩
  · split
    · exact Scoped.onLink (course.of_eq rfl rfl) counts (.refl _)
    · exact Scoped.onLink (course.of_eq rfl rfl) counts (.refl _)
    · exact ⟨counts, course⟩

/-- Whatever happens, the switchboard goes on counting the scopes. -/
theorem Scoped.step
    (kept : Scoped thread traffic) (happening : Happening) :
    Scoped thread (traffic.step happening) := by
  rcases kept with ⟨counts, course⟩
  cases happening with
  | proceed known => exact Scoped.proceed ⟨counts, course⟩ known
  | link happening =>
      rw [Traffic.step]
      split
      · next plain =>
          apply Scoped.onLink course counts
          rw [invocations_of_isPlain plain]
      · exact ⟨counts, course⟩
  | enter other =>
      rw [Traffic.step]
      refine Scoped.onLink (course.of_eq rfl rfl) counts ?_
      exact List.perm_middle.symm
  | leave other =>
      rw [Traffic.step]
      split
      · next runs =>
          refine Scoped.onLink (course.of_eq rfl rfl) counts ?_
          show ((traffic.held ++ traffic.others).erase other).Perm
            (traffic.held ++ traffic.others.erase other)
          apply (List.perm_append_comm.erase other).trans
          rw [List.erase_append_left _ runs]
          exact List.perm_append_comm
      · exact ⟨counts, course⟩
  | arrive writable =>
      rw [Traffic.step]
      split
      · exact ⟨counts, course⟩
      · exact Scoped.onLink (course.of_eq rfl rfl) counts (.refl _)
  | deliver =>
      rw [Traffic.step]
      split
      · exact ⟨counts, course⟩
      · exact ⟨counts, course.of_eq rfl rfl⟩
  | emit packet => exact ⟨counts, course.of_eq rfl rfl⟩

theorem Scoped.run
    (kept : Scoped thread traffic) (happenings : List Happening) :
    Scoped thread (traffic.run happenings) := by
  induction happenings generalizing traffic with
  | nil => exact kept
  | cons happening rest ih => exact ih (kept.step happening)

end

end Traffic

end FrameEval.Link
