import FrameEval.Proofs.Evaluation.Conduct
import FrameEval.Proofs.Heap.Register
import FrameEval.World.Answer

/-!
# The trail of a world

A world is built by acts and asked operations, and an operation may run the body of a method, which
performs acts in its turn.  All of this comes to the heap as a sequence of deeds, the trail.  The
moments of a trail are finer than those between the demands on the world: they also lie within the
bodies of methods.
-/

namespace FrameEval

open Wire

namespace World

/-- What is demanded of a world: to perform an act, or to answer an operation. -/
inductive Demand where
  | act (act : Act)
  | operation (operation : Operation)

/-- The world after a demand. -/
def undertake (world : World) : Demand → World
  | .act act => (world.perform act).2
  | .operation operation => (world.answer operation).2

/-- The world after some demands, the first one made first. -/
def after (history : List Demand) : World :=
  history.foldl undertake empty

/-! ## The deeds of a demand -/

/-- What an act does to the heap. -/
def actDeeds (world : World) : Act → List (Heap.Deed Routine)
  | .loadClass definition => [.addClass definition]
  | .newObject _ className => [.newObject className]
  | .newString _ text => [.newString text]
  | .newArray _ signature elements => [.newArray signature (elements.map world.resolve)]
  | .pushFrame thread classId method receiver locals =>
      [.pushFrame thread (Frame.ofMethod (world.classId classId) method (world.resolve receiver)
        (locals.map fun entry => (entry.1, entry.2.1, world.resolve entry.2.2)))]
  | .setField object name value => [.setField (world.resolve object) name (world.resolve value)]
  | .setStatic className name value => [.setStatic className name (world.resolve value)]
  | .reissueFrames thread => [.reissueFrames thread]
  | .popFrame thread => [.popFrame thread]
  | .bindName .. | .disconnect | .cancel => []

/-- What acts in order do to the heap. -/
def actsDeeds (world : World) : List Act → List (Heap.Deed Routine)
  | [] => []
  | act :: rest => world.actDeeds act ++ (world.perform act).2.actsDeeds rest

/-- What the body of a method does to the heap. -/
def callDeeds (world : World) (routine : Routine) (receiver : RemoteValue)
    (arguments : List RemoteValue) : List (Heap.Deed Routine) :=
  match routine with
  | .ofActs acts _ => (world.nameArguments receiver arguments).actsDeeds acts

/-- What a connected world does to its heap when it answers an operation. -/
def responseDeeds (world : World) : Operation → List (Heap.Deed Routine)
  | .setFrameValue thread frame slot value => [.setFrameValue thread frame slot value]
  | .createString text => [.newString text]
  | .arraySet array index value => [.putElement array index value]
  | .newArray signature length => [.allocateArray signature length]
  | .setField receiver field value => [.putField receiver field value]
  | .invoke _ receiver method arguments =>
      match world.heap.body method with
      | .error _ => []
      | .ok routine => world.callDeeds routine (receiver.getD .null) arguments
  | .newInstance _ constructor arguments =>
      match world.heap.body constructor, world.heap.classes.find? constructor.declaringType with
      | .ok routine, some definition =>
          let (object, created) := world.onHeap (Heap.newObject definition.signature)
          .newObject definition.signature :: created.callDeeds routine object arguments
      | _, _ => []
  | _ => []

/-- What a demand does to the heap. -/
def deeds (world : World) : Demand → List (Heap.Deed Routine)
  | .act act => world.actDeeds act
  | .operation operation =>
      if world.connected then
        { world with log := operation.label :: world.log }.responseDeeds operation
      else []

/-- What some demands do to the heap. -/
def deedsAll (world : World) : List Demand → List (Heap.Deed Routine)
  | [] => []
  | demand :: rest => world.deeds demand ++ (world.undertake demand).deedsAll rest

/-- Everything that is done to the heap in a history, the loading of the two built-in classes
first. -/
def trail (history : List Demand) : List (Heap.Deed Routine) :=
  [.addClass (.bare Signature.objectClass), .addClass (.bare Signature.stringClass)] ++
    empty.deedsAll history

/-! ## The heap after a demand -/

@[simp]
theorem heap_label (name : Option String) (value : RemoteValue) (world : World) :
    (World.label name value world).heap = world.heap := by
  cases name <;> rfl

theorem heap_perform (world : World) (act : Act) :
    (world.perform act).2.heap = world.heap.undergoAll (world.actDeeds act) := by
  cases act with
  | newObject name className => exact heap_label name _ _
  | newString name text => exact heap_label name _ _
  | newArray name signature elements => exact heap_label name _ _
  | bindName name term => exact heap_label name _ _
  | _ => rfl

theorem heap_performAll (world : World) (acts : List Act) :
    (world.performAll acts).heap = world.heap.undergoAll (world.actsDeeds acts) := by
  induction acts generalizing world with
  | nil => rfl
  | cons act rest ih =>
      rw [actsDeeds, Heap.undergoAll_append, ← heap_perform, ← ih]
      rfl

theorem heap_call
    (world : World) (routine : Routine) (receiver : RemoteValue) (arguments : List RemoteValue) :
    (world.call routine receiver arguments).2.heap =
      world.heap.undergoAll (world.callDeeds routine receiver arguments) := by
  cases routine with
  | ofActs acts ending => exact heap_performAll _ acts

theorem heap_writes (world : World) (change : Heap Routine → Except EvalError (Heap Routine)) :
    (world.writes change).2.heap = world.heap.attempt (change world.heap) := by
  rw [writes, Heap.attempt]
  cases change world.heap <;> rfl

theorem heap_invoke
    (world : World) (thread : ThreadId) (receiver : Option RemoteValue) (method : MethodRef)
    (arguments : List RemoteValue) :
    (world.invoke method (receiver.getD .null) arguments).2.heap =
      world.heap.undergoAll (world.responseDeeds (.invoke thread receiver method arguments)) := by
  rw [invoke, responseDeeds]
  cases world.heap.body method with
  | error error => rfl
  | ok routine => exact world.heap_call routine _ arguments

theorem heap_newInstance
    (world : World) (thread : ThreadId) (constructor : MethodRef) (arguments : List RemoteValue) :
    (world.newInstance constructor arguments).2.heap =
      world.heap.undergoAll (world.responseDeeds (.newInstance thread constructor arguments)) := by
  rw [newInstance, responseDeeds]
  cases world.heap.body constructor with
  | error error => rfl
  | ok routine =>
      cases world.heap.classes.find? constructor.declaringType with
      | none => rfl
      | some definition =>
          have called := heap_call (world.onHeap (Heap.newObject definition.signature)).2 routine
            (world.onHeap (Heap.newObject definition.signature)).1 arguments
          refine Eq.trans ?_ called
          dsimp only
          split <;> next outcome => rw [outcome]

theorem heap_respond (world : World) (operation : Operation) :
    (world.respond operation).2.heap =
      world.heap.undergoAll (world.responseDeeds operation) := by
  cases operation with
  | setFrameValue | arraySet | setField => exact world.heap_writes _
  | invoke thread receiver method arguments =>
      exact world.heap_invoke thread receiver method arguments
  | newInstance thread constructor arguments =>
      exact world.heap_newInstance thread constructor arguments
  | _ => rfl

/-- A demand comes to the heap as its deeds. -/
theorem heap_undertake (world : World) (demand : Demand) :
    (world.undertake demand).heap = world.heap.undergoAll (world.deeds demand) := by
  cases demand with
  | act act => exact world.heap_perform act
  | operation operation =>
      rw [undertake, answer, deeds]
      split
      · exact heap_respond _ operation
      · rfl

theorem heap_foldl (world : World) (history : List Demand) :
    (history.foldl undertake world).heap = world.heap.undergoAll (world.deedsAll history) := by
  induction history generalizing world with
  | nil => rfl
  | cons demand rest ih =>
      rw [List.foldl_cons, ih, heap_undertake, deedsAll, Heap.undergoAll_append]

/-- After a history the heap is the one to which everything on its trail was done. -/
theorem heap_after (history : List Demand) :
    (after history).heap = Heap.blank.undergoAll (trail history) :=
  heap_foldl empty history

theorem deedsAll_append (world : World) (before later : List Demand) :
    world.deedsAll (before ++ later) =
      world.deedsAll before ++ (before.foldl undertake world).deedsAll later := by
  induction before generalizing world with
  | nil => rfl
  | cons demand rest ih =>
      rw [List.cons_append, deedsAll, ih, deedsAll, List.append_assoc]
      rfl

theorem trail_prefix {before history : List Demand} (part : before <+: history) :
    trail before <+: trail history := by
  obtain ⟨later, rfl⟩ := part
  rw [trail, trail, deedsAll_append, ← List.append_assoc]
  exact List.prefix_append _ _

/-! ## Lost connections -/

theorem connected_label (name : Option String) (value : RemoteValue) (world : World) :
    (World.label name value world).connected = world.connected := by
  cases name <;> rfl

theorem disconnected_undertake
    {world : World} (lost : world.connected = false) (demand : Demand) :
    (world.undertake demand).connected = false := by
  cases demand with
  | act act =>
      rw [undertake]
      cases act with
      | newObject name | newString name | newArray name | bindName name =>
          exact (connected_label name _ _).trans lost
      | disconnect => rfl
      | _ => exact lost
  | operation operation =>
      rw [undertake, answer, if_neg (by simp [lost])]
      exact lost

/-- A world that was disconnected stays so. -/
theorem disconnected_after
    {first second : List Demand} (part : first <+: second)
    (lost : (after first).connected = false) : (after second).connected = false := by
  obtain ⟨later, rfl⟩ := part
  rw [after, List.foldl_append]
  rw [after] at lost
  generalize first.foldl undertake empty = world at lost ⊢
  induction later generalizing world with
  | nil => exact lost
  | cons demand rest ih => exact ih _ (disconnected_undertake lost demand)

/-! ## Accesses to a frame that is gone -/

/-- The answer to an access by an id that no frame of the thread has. -/
def staleness (world : World) (id : FrameId) : EvalError :=
  if world.connected then .staleFrame s!"invalid frame id {Text.hex id.toNat}" else .disconnected

/-- Such an access is refused, and the heap is as before. -/
theorem answer_of_absent
    {world : World} {operation : Operation} {thread : ThreadId} {id : FrameId}
    (accesses : operation.frameAccess? = some (thread, id))
    (absent : id ∉ world.heap.frameIds thread) :
    (world.answer operation).1 = .error (.failed (world.staleness id)) ∧
      (world.answer operation).2.heap = world.heap := by
  have missing := Heap.liveFrame_of_absent absent
  rw [answer, staleness]
  split
  · cases operation with
    | thisObject other frame =>
        cases accesses
        refine ⟨?_, rfl⟩
        rw [respond, reads, searches, missing]
        rfl
    | frameValues other frame slots =>
        cases accesses
        refine ⟨?_, rfl⟩
        rw [respond, reads, searches, Heap.frameValues, missing]
        rfl
    | setFrameValue other frame slot value =>
        cases accesses
        rw [respond, writes, Heap.setFrameValue, missing]
        exact ⟨rfl, rfl⟩
    | _ => cases accesses
  · exact ⟨rfl, rfl⟩

end World

end FrameEval
