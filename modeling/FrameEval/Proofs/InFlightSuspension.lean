import FrameEval.Proofs.Link.Traffic
import FrameEval.Proofs.Resumption

/-!
# Suspensions that are in flight

An event set that the target sent before it received an invocation was not caused by it.  The
switchboard cannot tell: it judges a set when it takes it, by the scopes that are held at that
moment, and an errand enters its scope before it hands the invocation over.

So a set that happened to the thread of the errand only, while nobody else invokes on that
thread, is offered and causes nothing else just if the switchboard takes it before the errand
enters its scope or after it leaves it.  A set that is still on its way when the scope is
entered is kept back, and the thread that it had suspended is resumed.
-/

namespace FrameEval.Link

open Wire Remote

/-! ## Sets of one thread -/

/-- All events of a set, and at least one, happened to one thread. -/
def NamesOnly (thread : ThreadId) (set : EventSet) : Prop :=
  set.events ≠ [] ∧ ∀ event ∈ set.events, event.details.thread? = some thread

/-- Such a set arises from running invocations just if one runs on that thread. -/
theorem NamesOnly.arisesOn_iff
    {thread : ThreadId} {set : EventSet} (names : NamesOnly thread set)
    (live : List ThreadId) : ArisesOn live set ↔ thread ∈ live := by
  constructor
  · intro arises
    rcases List.exists_mem_of_ne_nil set.events names.1 with ⟨event, member⟩
    rcases arises.2 event member with ⟨other, runs, happened⟩
    rw [names.2 event member] at happened
    cases happened
    exact runs
  · intro runs
    exact ⟨names.1, fun event member => ⟨thread, runs, names.2 event member⟩⟩

/-- What the switchboard does about a set that is reported to it. -/
theorem Switchboard.effects_of_reported
    {board : Switchboard} {live : List ThreadId} (counts : board.invoking.Counts live)
    (isOpen : board.isOpen = true) {packet : Packet} {set : EventSet}
    (reports : reported? packet = some set) (writable : Nat) :
    (¬ ArisesOn live set ∧ (board.step (.arrive packet writable)).2 = [.offer set]) ∨
      (ArisesOn live set ∧ (board.step (.arrive packet writable)).2 =
        .swallow set :: ((board.undoing set).take writable).map .write) := by
  have change := board.step_change (.arrive packet writable)
  rw [← arisesFromInvocation_iff counts]
  rcases change.arrived isOpen reports with ⟨offers, arises⟩ | ⟨⟨commands, keeps⟩, arises⟩
  · exact .inl ⟨Bool.eq_false_iff.1 arises, offers⟩
  · have swallowed : .swallow set ∈ (board.step (.arrive packet writable)).2 := by
      rw [keeps]
      exact List.mem_cons_self
    rcases change.of_swallow swallowed with ⟨other, count, same, _, _, effects, _⟩
    cases same
    exact .inr ⟨arises, effects⟩

/-! ## What becomes of a set -/

/-- The next packet of the target reports a set that happened to a thread only, on which no
other caller invokes. -/
structure Traffic.Reports
    {α : Type} (traffic : Traffic α) (thread : ThreadId) (sent : Sent) (set : EventSet) :
    Prop where
  next : traffic.inbound.head? = some sent
  reports : reported? sent.packet = some set
  names : NamesOnly thread set
  alone : thread ∉ traffic.others
  isOpen : traffic.board.isOpen = true

/-- A set that happened to the thread of an errand only is spared just if the errand does not
hold its scope when the switchboard takes the set.  It does not matter when the target sent it. -/
theorem set_is_spared_outside_the_scope
    {usage : Usage} {thread : ThreadId} {errand : Errand InvokeOutcome}
    (invokes : Invokes usage thread errand) (capacity : Nat)
    (happenings : List Traffic.Happening) {sent : Sent} {set : EventSet} :
    let traffic := (Traffic.fresh capacity errand.run).run happenings
    traffic.Reports thread sent set → ∀ writable,
      (traffic.held = [] ∧
        (traffic.board.step (.arrive sent.packet writable)).2 = [.offer set]) ∨
      (traffic.held = [thread] ∧
        (traffic.board.step (.arrive sent.packet writable)).2 =
          .swallow set :: ((traffic.board.undoing set).take writable).map .write) := by
  intro traffic reported writable
  have kept : Traffic.Scoped thread traffic :=
    (Traffic.scoped_fresh capacity invokes.invocation).run happenings
  have judged :=
    Switchboard.effects_of_reported kept.counts reported.isOpen reported.reports writable
  rw [reported.names.arisesOn_iff, List.mem_append] at judged
  have outside : traffic.held = [] ∨ traffic.held = [thread] := by
    cases kept.course with
    | before none _ => exact .inl none
    | within one _ => exact .inr one
    | after none _ => exact .inl none
  rcases outside with none | one
  · rcases judged with ⟨_, offers⟩ | ⟨held | other, _⟩
    · exact .inl ⟨none, offers⟩
    · rw [none] at held
      cases held
    · exact (reported.alone other).elim
  · rcases judged with ⟨absent, _⟩ | ⟨_, keeps⟩
    · apply absurd _ absent
      rw [one]
      exact .inl (List.mem_singleton_self thread)
    · exact .inr ⟨one, keeps⟩

/-- A breakpoint that suspended one thread. -/
def earlySet : EventSet where
  policy := .eventThread
  events := [⟨2, 5, .breakpoint 7 ⟨1, 16, 32, 3⟩⟩]

theorem namesOnly_earlySet : NamesOnly 7 earlySet := by
  constructor
  · exact List.cons_ne_nil _ _
  · intro event member
    rw [List.mem_singleton.1 member]
    rfl

/-- A method that is invoked on the thread of the breakpoint. -/
def laterInvocation : Errand InvokeOutcome :=
  Errand.invoke ⟨true, 8⟩ 7 none ⟨2, 3, "run", "()V", true⟩ []

set_option maxRecDepth 2000 in
/-- The set is spared if it is taken before the errand begins. -/
theorem set_before_the_scope_is_spared :
    let traffic := (Traffic.fresh 1 laterInvocation.run).run [.emit (reportOf earlySet)]
    traffic.Reports 7 ⟨reportOf earlySet, true⟩ earlySet ∧
      (traffic.board.step (.arrive (reportOf earlySet) 1)).2 = [.offer earlySet] := by
  intro traffic
  have reported : traffic.Reports 7 ⟨reportOf earlySet, true⟩ earlySet :=
    ⟨rfl, rfl, namesOnly_earlySet, List.not_mem_nil, rfl⟩
  rcases set_is_spared_outside_the_scope (.method none _ []) 1 [.emit (reportOf earlySet)]
    reported 1 with ⟨_, offers⟩ | ⟨one, _⟩
  · exact ⟨reported, offers⟩
  · cases one

/-- In every run in which the target receives the invocation in the end, a set that it sent
before and that happened to the thread only is offered and causes nothing else. -/
def SparesEarlySets (thread : ThreadId) (capacity : Nat) (errand : Errand InvokeOutcome) : Prop :=
  ∀ before writable after,
    let traffic := (Traffic.fresh capacity errand.run).run before
    ((traffic.step (.arrive writable)).run after).received = true →
      ∀ sent set, traffic.Reports thread sent set → sent.early = true →
        (traffic.board.step (.arrive sent.packet writable)).2 = [.offer set]

/-- The breakpoint is on its way when the errand enters its scope. -/
def early : List Traffic.Happening :=
  [.emit (reportOf earlySet), .proceed none]

/-- The invocation gets its id and is handed over, and the target receives it after the command
that resumes the thread. -/
def afterwards : List Traffic.Happening :=
  [.proceed none, .proceed none, .link (.take none), .deliver, .deliver]

set_option maxRecDepth 2000 in
/-- A set that is sent before the invocation is received may be kept back, even before the
invocation is written. -/
theorem early_set_is_kept_back :
    (((Traffic.fresh 1 laterInvocation.run).run early).board.step
        (.arrive (reportOf earlySet) 1)).2 =
      [.swallow earlySet, .write ((Call.resumeThread 7).order.withId 1)] ∧
      ¬ SparesEarlySets 7 1 laterInvocation := by
  have kept : (((Traffic.fresh 1 laterInvocation.run).run early).board.step
      (.arrive (reportOf earlySet) 1)).2 =
      [.swallow earlySet, .write ((Call.resumeThread 7).order.withId 1)] := rfl
  refine ⟨kept, fun spares => ?_⟩
  have reported : ((Traffic.fresh 1 laterInvocation.run).run early).Reports 7
      ⟨reportOf earlySet, true⟩ earlySet :=
    ⟨rfl, rfl, namesOnly_earlySet, List.not_mem_nil, rfl⟩
  have offers := spares early 1 afterwards rfl ⟨reportOf earlySet, true⟩ earlySet reported rfl
  cases kept.symm.trans offers

end FrameEval.Link
