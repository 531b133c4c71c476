import FrameEval.Proofs.Heap.Referents
import Mathlib.Data.List.Induction

/-!
# The register of ids

Along a sequence of deeds the drawn ids are entered in a register, each with what it was drawn
for.  Whatever is found under an id at any time is entered there.  As long as the drawn ids are
fewer than there are numbers none is entered twice, so an id never changes what it refers to, and
a frame id that a deed dismissed does not come back.
-/

namespace FrameEval.Heap

open Wire

variable {Body : Type} {heap : Heap Body} {deeds before later : List (Deed Body)} {id : UInt64}

/-- The heap after some deeds, the first one done first. -/
def undergoAll (heap : Heap Body) (deeds : List (Deed Body)) : Heap Body :=
  deeds.foldl undergo heap

/-- The ids that some deeds draw, the first one first. -/
def register (heap : Heap Body) : List (Deed Body) → List Drawing
  | [] => []
  | deed :: rest => heap.draws deed ++ (heap.undergo deed).register rest

/-- The same without what they are drawn for. -/
def drawnIds (heap : Heap Body) (deeds : List (Deed Body)) : List UInt64 :=
  (heap.register deeds).map Prod.fst

theorem undergoAll_append (heap : Heap Body) (before later : List (Deed Body)) :
    heap.undergoAll (before ++ later) = (heap.undergoAll before).undergoAll later :=
  List.foldl_append

theorem register_append (heap : Heap Body) (before later : List (Deed Body)) :
    heap.register (before ++ later) =
      heap.register before ++ (heap.undergoAll before).register later := by
  induction before generalizing heap with
  | nil => rfl
  | cons deed rest ih =>
      rw [List.cons_append, register, ih, register, List.append_assoc]
      rfl

theorem undergoAll_concat (heap : Heap Body) (before : List (Deed Body)) (deed : Deed Body) :
    heap.undergoAll (before ++ [deed]) = (heap.undergoAll before).undergo deed :=
  heap.undergoAll_append before [deed]

theorem drawnIds_append (heap : Heap Body) (before later : List (Deed Body)) :
    heap.drawnIds (before ++ later) =
      heap.drawnIds before ++ (heap.undergoAll before).drawnIds later := by
  rw [drawnIds, register_append, List.map_append]
  rfl

theorem drawnIds_singleton (heap : Heap Body) (deed : Deed Body) :
    heap.drawnIds [deed] = (heap.draws deed).map Prod.fst :=
  congrArg (List.map Prod.fst) (List.append_nil (heap.draws deed))

/-- The drawn ids are consecutive, and the counter shows the last one. -/
theorem drawnIds_following (heap : Heap Body) (deeds : List (Deed Body)) :
    heap.drawnIds deeds = following heap.lastId (heap.register deeds).length ∧
      (heap.undergoAll deeds).lastId = heap.lastId + .ofNat (heap.register deeds).length := by
  induction deeds generalizing heap with
  | nil => exact ⟨rfl, (UInt64.add_zero _).symm⟩
  | cons deed rest ih =>
      obtain ⟨ids, last⟩ := heap.draws_following deed
      obtain ⟨others, shows⟩ := ih (heap.undergo deed)
      rw [drawnIds] at others
      constructor
      · rw [drawnIds, register, List.map_append, ids, others, last, following_append,
          List.length_append]
      · rw [register, List.length_append, UInt64.ofNat_add, ← UInt64.add_assoc, ← last]
        exact shows

/-- What an id refers to after some deeds it referred to before, or it was drawn for it. -/
theorem refers_undergoAll
    {referent : Referent} (refers : (heap.undergoAll deeds).Refers id referent) :
    heap.Refers id referent ∨ (id, some referent) ∈ heap.register deeds := by
  induction deeds generalizing heap with
  | nil => exact .inl refers
  | cons deed rest ih =>
      rw [register, List.mem_append]
      obtain earlier | drawn := ih refers
      · exact (refers_undergo earlier).imp_right .inl
      · exact .inr (.inr drawn)

/-- Nothing has an id in a heap in which nothing is loaded. -/
theorem not_refers_blank (id : UInt64) (referent : Referent) :
    ¬ (blank : Heap Body).Refers id referent := by
  intro refers
  cases referent with
  | ofClass signature => obtain named | loaded := refers <;> contradiction
  | ofFrame thread => exact List.not_mem_nil refers
  | _ => cases refers

theorem registered
    {referent : Referent} (refers : ((blank : Heap Body).undergoAll deeds).Refers id referent) :
    (id, some referent) ∈ blank.register deeds :=
  (refers_undergoAll refers).resolve_left (not_refers_blank id referent)

theorem mem_drawnIds
    {referent : Option Referent} (entered : (id, referent) ∈ heap.register deeds) :
    id ∈ heap.drawnIds deeds :=
  List.mem_map_of_mem entered

/-- In a register without repetition an id is entered for one thing. -/
theorem entry_unique
    (distinct : (heap.drawnIds deeds).Nodup) {first second : Option Referent}
    (entered : (id, first) ∈ heap.register deeds) (again : (id, second) ∈ heap.register deeds) :
    first = second :=
  congrArg Prod.snd (List.inj_on_of_nodup_map distinct entered again rfl)

theorem nodup_of_append
    (distinct : (heap.drawnIds (before ++ later)).Nodup) :
    (heap.drawnIds before).Nodup ∧ ((heap.undergoAll before).drawnIds later).Nodup ∧
      ∀ id ∈ heap.drawnIds before, id ∉ (heap.undergoAll before).drawnIds later := by
  rw [drawnIds_append, List.nodup_append'] at distinct
  exact ⟨distinct.1, distinct.2.1, fun id member again => distinct.2.2 member again⟩

/-! ## Live frames -/

/-- Unless an id is drawn twice, the frames of a thread have different ids. -/
theorem nodup_frameIds
    (distinct : ((blank : Heap Body).drawnIds deeds).Nodup) (thread : ThreadId) :
    ((blank.undergoAll deeds).frameIds thread).Nodup := by
  induction deeds using List.reverseRecOn with
  | nil => exact List.nodup_nil
  | append_singleton before deed ih =>
      obtain ⟨earlier, now, apart⟩ := nodup_of_append distinct
      rw [drawnIds_singleton] at now apart
      obtain ⟨kept, same, part⟩ := (blank.undergoAll before).frameIds_undergo deed thread
      have drawn := issued_sublist thread ((blank.undergoAll before).draws deed)
      rw [undergoAll_concat, same, List.nodup_append']
      refine ⟨now.sublist drawn, (ih earlier).sublist part, ?_⟩
      -- what was there before was drawn before
      intro id new old
      have entered : (id, some (Referent.ofFrame thread)) ∈ blank.register before :=
        registered (part.mem old)
      exact apart id (mem_drawnIds entered) (drawn.mem new)

/-- A frame is found by its id and by no other. -/
theorem liveFrame_eq_ok_iff
    {thread : ThreadId} (distinct : (heap.frameIds thread).Nodup) {frame : Frame} :
    heap.liveFrame thread id = .ok frame ↔ (id, frame) ∈ heap.frames thread := by
  rw [liveFrame]
  constructor
  · intro found
    split at found
    · next entry located =>
      cases found
      have same : entry.1 = id := by simpa using List.find?_some located
      rw [← same]
      exact List.mem_of_find?_eq_some located
    · cases found
  · intro member
    cases located : (heap.frames thread).find? fun entry => entry.1 = id with
    | none =>
        rw [List.find?_eq_none] at located
        exact (located _ member (by simp)).elim
    | some entry =>
        have same : entry.1 = id := by simpa using List.find?_some located
        have unique : entry = (id, frame) :=
          List.inj_on_of_nodup_map distinct (List.mem_of_find?_eq_some located) member same
        rw [unique]

/-- No two frames of a thread have one id. -/
theorem frameIds_position
    {thread : ThreadId} (distinct : (heap.frameIds thread).Nodup) {first second : Nat}
    {frame other : Frame} (here : (heap.frames thread)[first]? = some (id, frame))
    (there : (heap.frames thread)[second]? = some (id, other)) : first = second := by
  have found {depth : Nat} {frame : Frame}
      (known : (heap.frames thread)[depth]? = some (id, frame)) :
      (heap.frameIds thread)[depth]? = some id := by
    rw [frameIds, List.getElem?_map, known]
    rfl
  obtain ⟨within, -⟩ := List.getElem?_eq_some_iff.1 (found here)
  exact (List.getElem?_inj within distinct).1 ((found here).trans (found there).symm)

theorem liveFrame_of_absent
    {thread : ThreadId} (absent : id ∉ heap.frameIds thread) :
    heap.liveFrame thread id = .error (.staleFrame s!"invalid frame id {Text.hex id.toNat}") := by
  rw [liveFrame]
  cases located : (heap.frames thread).find? fun entry => entry.1 = id with
  | none => rfl
  | some entry =>
      have same : entry.1 = id := by simpa using List.find?_some located
      rw [← same] at absent
      exact (absent (List.mem_map_of_mem (List.mem_of_find?_eq_some located))).elim

/-! ## Stale frames -/

/-- A deed that dismisses a frame id leaves no frame with it. -/
theorem absent_of_dismisses
    {deed : Deed Body} (dismissed : id ∈ heap.dismisses deed)
    (distinct : ∀ thread, (heap.frameIds thread).Nodup)
    (single : ∀ thread other, id ∈ heap.frameIds thread → id ∈ heap.frameIds other →
      thread = other)
    (undrawn : id ∉ (heap.draws deed).map Prod.fst) (thread : ThreadId) :
    id ∉ (heap.undergo deed).frameIds thread := by
  intro live
  cases deed with
  | popFrame other =>
      have former : id ∈ heap.frameIds other := List.mem_of_mem_take dismissed
      rw [undergo] at live
      by_cases same : thread = other
      · subst same
        rw [frameIds_popFrame_self] at live
        exact List.disjoint_take_drop (distinct thread) (Nat.le_refl 1) dismissed live
      · rw [frameIds_popFrame_ne heap same] at live
        exact same (single thread other live former)
  | reissueFrames other =>
      rw [undergo] at live
      by_cases same : thread = other
      · subst same
        rw [frameIds_reissueFrames_self, ← issued_self thread] at live
        exact undrawn ((issued_sublist thread _).mem live)
      · rw [frameIds_reissueFrames_ne heap same] at live
        exact same (single thread other live dismissed)
  | _ => exact List.not_mem_nil dismissed

theorem mem_frameIds_of_dismisses
    {deed : Deed Body} (dismissed : id ∈ heap.dismisses deed) :
    ∃ thread, id ∈ heap.frameIds thread := by
  cases deed with
  | popFrame thread => exact ⟨thread, List.mem_of_mem_take dismissed⟩
  | reissueFrames thread => exact ⟨thread, dismissed⟩
  | _ => exact (List.not_mem_nil dismissed).elim

/-! ## Over time -/

theorem nodup_of_part
    (distinct : (heap.drawnIds deeds).Nodup) (part : before <+: deeds) :
    (heap.drawnIds before).Nodup := by
  obtain ⟨later, rfl⟩ := part
  exact (nodup_of_append distinct).1

theorem refers_constant
    (distinct : ((blank : Heap Body).drawnIds deeds).Nodup) {first second : List (Deed Body)}
    (part : first <+: deeds) (other : second <+: deeds) {referent referent' : Referent}
    (refers : (blank.undergoAll first).Refers id referent)
    (refers' : (blank.undergoAll second).Refers id referent') : referent = referent' := by
  have whole {before : List (Deed Body)} (part : before <+: deeds) {entry : Drawing}
      (entered : entry ∈ blank.register before) : entry ∈ blank.register deeds := by
    obtain ⟨later, rfl⟩ := part
    rw [register_append]
    exact List.mem_append_left _ entered
  exact Option.some.inj (entry_unique distinct (whole part (registered refers))
    (whole other (registered refers')))

/-- A frame id is live on one thread at most. -/
theorem thread_unique
    (distinct : ((blank : Heap Body).drawnIds deeds).Nodup) (part : before <+: deeds)
    {thread other : ThreadId} (here : id ∈ (blank.undergoAll before).frameIds thread)
    (there : id ∈ (blank.undergoAll before).frameIds other) : thread = other := by
  have first : (blank.undergoAll before).Refers id (.ofFrame thread) := here
  have second : (blank.undergoAll before).Refers id (.ofFrame other) := there
  exact Referent.ofFrame.inj (refers_constant distinct part part first second)

/-- After the deed that dismisses it, a frame id stays without a frame. -/
theorem absent_after_dismissal
    {deed : Deed Body} {after : List (Deed Body)}
    (distinct : ((blank : Heap Body).drawnIds (before ++ deed :: after)).Nodup)
    (dismissed : id ∈ (blank.undergoAll before).dismisses deed) (thread : ThreadId) :
    id ∉ (blank.undergoAll (before ++ deed :: after)).frameIds thread := by
  obtain ⟨former, live⟩ := mem_frameIds_of_dismisses dismissed
  have entered : (id, some (Referent.ofFrame former)) ∈ blank.register before := registered live
  have old : id ∈ blank.drawnIds before := mem_drawnIds entered
  rw [List.append_cons] at distinct ⊢
  obtain ⟨earlier, -, apart⟩ := nodup_of_append distinct
  obtain ⟨first, -, undrawn⟩ := nodup_of_append earlier
  rw [drawnIds_singleton] at undrawn
  have absent : id ∉ (blank.undergoAll (before ++ [deed])).frameIds thread := by
    rw [undergoAll_concat]
    refine absent_of_dismisses dismissed (nodup_frameIds first) ?_ (undrawn id old) thread
    intro thread other here there
    exact thread_unique first (List.prefix_refl before) here there
  intro again
  rw [undergoAll_append] at again
  have refers : ((blank.undergoAll (before ++ [deed])).undergoAll after).Refers id
    (.ofFrame thread) := again
  obtain earlier | drawn := refers_undergoAll refers
  · exact absent earlier
  · refine apart id ?_ (mem_drawnIds drawn)
    rw [drawnIds_append]
    exact List.mem_append_left _ old

/-- A frame is found on one thread at one depth, and its id leads there. -/
theorem frame_unique
    (distinct : ((blank : Heap Body).drawnIds deeds).Nodup) {thread : ThreadId} {depth : Nat}
    {frame : Frame} (here : ((blank.undergoAll deeds).frames thread)[depth]? = some (id, frame)) :
    (blank.undergoAll deeds).liveFrame thread id = .ok frame ∧
      ∀ other (position : Nat) found,
        ((blank.undergoAll deeds).frames other)[position]? = some (id, found) →
          other = thread ∧ position = depth ∧ found = frame := by
  have separate := nodup_frameIds distinct thread
  refine ⟨(liveFrame_eq_ok_iff separate).2 (List.mem_of_getElem? here), ?_⟩
  intro other position found there
  have mine : id ∈ (blank.undergoAll deeds).frameIds thread :=
    List.mem_map_of_mem (List.mem_of_getElem? here)
  have its : id ∈ (blank.undergoAll deeds).frameIds other :=
    List.mem_map_of_mem (List.mem_of_getElem? there)
  obtain rfl := thread_unique distinct (List.prefix_refl deeds) its mine
  obtain rfl := frameIds_position separate there here
  rw [here] at there
  cases there
  exact ⟨rfl, rfl, rfl⟩

/-! ## A whole sequence of deeds -/

/-- What holds of ids while some deeds are done to a target that had nothing. -/
structure Unaliased (deeds : List (Deed Body)) : Prop where
  /-- Each id is the number that follows on the one before. -/
  consecutive : blank.drawnIds deeds = following 0x100 (blank.drawnIds deeds).length
  /-- At all times the counter shows how many ids were drawn, so none is missing. -/
  counted : ∀ before, before <+: deeds →
    (blank.undergoAll before).lastId = 0x100 + .ofNat (blank.drawnIds before).length
  /-- Each id is further from the start of the counter than all before it. -/
  rising : (blank.drawnIds deeds).Pairwise fun earlier later =>
    (earlier - 0x100).toNat < (later - 0x100).toNat
  /-- Each id is a larger number than all before it, unless the counter starts again at zero. -/
  growing : 0x100 + (blank.drawnIds deeds).length < UInt64.size →
    (blank.drawnIds deeds).Pairwise (· < ·)
  /-- No id is drawn twice. -/
  distinct : (blank.drawnIds deeds).Nodup
  /-- Whatever has an id at any time has one that was drawn for it by then. -/
  entered : ∀ before, before <+: deeds → ∀ id referent,
    (blank.undergoAll before).Refers id referent → (id, some referent) ∈ blank.register before
  /-- Whatever a deed hands back is the last id that it drew, and refers to what it was drawn for. -/
  handedBack : ∀ before deed, before ++ [deed] <+: deeds → ∀ id,
    (blank.undergoAll before).handsBack deed = some id →
      ∃ referent, ((blank.undergoAll before).draws deed).getLast? = some (id, some referent) ∧
        (blank.undergoAll (before ++ [deed])).Refers id referent
  /-- When an id is drawn, nothing has it, nor has anything had it before. -/
  fresh : ∀ before deed, before ++ [deed] <+: deeds → ∀ earlier, earlier <+: before →
    ∀ id ∈ ((blank.undergoAll before).draws deed).map Prod.fst, ∀ referent,
      ¬ (blank.undergoAll earlier).Refers id referent
  /-- At all times an id refers to the same thing, if to anything. -/
  constant : ∀ first second, first <+: deeds → second <+: deeds → ∀ id referent other,
    (blank.undergoAll first).Refers id referent → (blank.undergoAll second).Refers id other →
      referent = other
  /-- An id is found on one thread at most, at one depth at most, and leads to the frame there. -/
  resolved : ∀ before, before <+: deeds → ∀ thread (depth : Nat) id frame,
    ((blank.undergoAll before).frames thread)[depth]? = some (id, frame) →
      (blank.undergoAll before).liveFrame thread id = .ok frame ∧
        ∀ other (position : Nat) found,
          ((blank.undergoAll before).frames other)[position]? = some (id, found) →
            other = thread ∧ position = depth ∧ found = frame
  /-- Once a frame was popped or given another id, no frame of any thread has its id again. -/
  gone : ∀ before deed after, before ++ deed :: after <+: deeds →
    ∀ id ∈ (blank.undergoAll before).dismisses deed, ∀ thread,
      id ∉ (blank.undergoAll (before ++ deed :: after)).frameIds thread

/-- As long as fewer ids are drawn than there are numbers, nothing shares an id with anything. -/
theorem unaliased (few : ((blank : Heap Body).drawnIds deeds).length < UInt64.size) :
    Unaliased deeds := by
  have consecutive : blank.drawnIds deeds = following 0x100 (blank.drawnIds deeds).length := by
    rw [drawnIds, List.length_map]
    exact (blank.drawnIds_following deeds).1
  have distinct : (blank.drawnIds deeds).Nodup := by
    rw [consecutive]
    exact nodup_following few
  refine
    { consecutive := consecutive
      counted := ?counted
      rising := ?rising
      growing := ?growing
      distinct := distinct
      entered := fun before part id referent refers => registered refers
      handedBack := ?handedBack
      fresh := ?fresh
      constant := fun first second part other id referent referent' =>
        refers_constant distinct part other
      resolved := fun before part thread depth id frame =>
        frame_unique (nodup_of_part distinct part)
      gone := fun before deed after part id =>
        absent_after_dismissal (nodup_of_part distinct part) }
  case counted =>
    intro before _
    rw [drawnIds, List.length_map]
    exact (blank.drawnIds_following before).2
  case rising =>
    rw [consecutive]
    exact pairwise_following few
  case growing =>
    intro room
    rw [consecutive]
    exact pairwise_lt_following room
  case handedBack =>
    intro before deed part id given
    rw [undergoAll_concat]
    exact refers_of_handsBack given
  case fresh =>
    intro before deed part earlier start id drawn referent refers
    obtain ⟨-, -, apart⟩ := nodup_of_append (nodup_of_part distinct part)
    rw [drawnIds_singleton] at apart
    refine apart id ?_ drawn
    obtain ⟨between, rfl⟩ := start
    rw [drawnIds_append]
    exact List.mem_append_left _ (mem_drawnIds (registered refers))

end FrameEval.Heap
