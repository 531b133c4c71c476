import FrameEval.Proofs.Heap.Deeds

/-!
# What ids refer to

A deed gives an id to nothing but what it draws one for: what an id refers to after a deed it
either referred to before, or it was drawn for it just then.  The frames of a thread have new ids
above old ones, in the old order.
-/

namespace FrameEval.Heap

open Wire

variable {Body : Type} {heap : Heap Body}

/-! ## Frames -/

theorem frameIds_pushFrame_self (heap : Heap Body) (thread : ThreadId) (frame : Frame) :
    (heap.pushFrame thread frame).2.frameIds thread =
      heap.allocate.1 :: heap.frameIds thread := by
  rw [frameIds, pushFrame]
  exact congrArg (List.map Prod.fst) (frames_insert_self _ thread _)

theorem frameIds_pushFrame_ne
    (heap : Heap Body) {thread other : ThreadId} (differs : other ≠ thread) (frame : Frame) :
    (heap.pushFrame thread frame).2.frameIds other = heap.frameIds other := by
  rw [frameIds, pushFrame]
  exact congrArg (List.map Prod.fst) (frames_insert_ne _ differs _)

theorem frameIds_popFrame_self (heap : Heap Body) (thread : ThreadId) :
    (heap.popFrame thread).frameIds thread = (heap.frameIds thread).drop 1 := by
  rw [frameIds, Heap.frames, popFrame, Table.find?_modify_self, frameIds, Heap.frames]
  cases heap.threads.find? thread with
  | none => rfl
  | some frames => exact List.map_drop

theorem frameIds_popFrame_ne
    (heap : Heap Body) {thread other : ThreadId} (differs : other ≠ thread) :
    (heap.popFrame thread).frameIds other = heap.frameIds other := by
  rw [frameIds, Heap.frames, popFrame, Table.find?_modify_ne _ _ differs]
  rfl

theorem frameIds_reissueFrames_self (heap : Heap Body) (thread : ThreadId) :
    (heap.reissueFrames thread).frameIds thread =
      (reissue (heap.frames thread) heap).1.map Prod.fst := by
  rw [reissueFrames]
  cases known : heap.threads.find? thread with
  | none =>
      rw [frameIds, Heap.frames, known]
      rfl
  | some frames =>
      have held : heap.frames thread = frames := by
        rw [Heap.frames, known]
        rfl
      rw [held]
      exact congrArg (List.map Prod.fst) (frames_insert_self _ thread _)

theorem frameIds_reissueFrames_ne
    (heap : Heap Body) {thread other : ThreadId} (differs : other ≠ thread) :
    (heap.reissueFrames thread).frameIds other = heap.frameIds other := by
  rw [reissueFrames]
  cases heap.threads.find? thread with
  | none => rfl
  | some frames =>
      dsimp only
      rw [frameIds, frames_insert_ne _ differs, (reissue_eq frames heap).2]
      rfl

/-- The ids among some drawings that are for frames of a thread. -/
def issued (thread : ThreadId) (drawings : List Drawing) : List FrameId :=
  drawings.filterMap fun drawing =>
    if drawing.2 = some (.ofFrame thread) then some drawing.1 else none

theorem mem_issued
    {thread : ThreadId} {drawings : List Drawing} {id : FrameId} :
    id ∈ issued thread drawings ↔ (id, some (.ofFrame thread)) ∈ drawings := by
  rw [issued, List.mem_filterMap]
  constructor
  · rintro ⟨⟨other, referent⟩, member, given⟩
    split at given
    · next same =>
      cases given
      rw [← same]
      exact member
    · cases given
  · intro member
    exact ⟨_, member, if_pos rfl⟩

theorem issued_sublist (thread : ThreadId) (drawings : List Drawing) :
    (issued thread drawings).Sublist (drawings.map Prod.fst) := by
  induction drawings with
  | nil => exact .slnil
  | cons drawing rest ih =>
      rw [issued, List.filterMap_cons]
      split
      · exact ih.cons _
      · next given =>
        split at given
        · cases given
          exact ih.cons_cons _
        · cases given

theorem issued_self (thread : ThreadId) (entries : List (FrameId × Frame)) :
    issued thread (entries.map fun entry => (entry.1, some (.ofFrame thread))) =
      entries.map Prod.fst := by
  rw [issued, List.filterMap_map]
  exact List.filterMap_eq_map_iff_forall_eq_some.2 fun _ _ => if_pos rfl

theorem issued_ne
    {thread other : ThreadId} (differs : other ≠ thread) (entries : List (FrameId × Frame)) :
    issued other (entries.map fun entry => (entry.1, some (.ofFrame thread))) = [] := by
  rw [issued, List.filterMap_map, List.filterMap_eq_nil_iff]
  intro entry _
  exact if_neg fun same => differs (Referent.ofFrame.inj (Option.some.inj same)).symm

theorem frameIds_newArray
    (heap : Heap Body) (signature : String) (elements : List RemoteValue) (thread : ThreadId) :
    (heap.newArray signature elements).2.frameIds thread =
      issued thread [heap.arrayDrawing signature] ++ heap.frameIds thread := by
  rw [arrayDrawing]
  obtain ⟨error, read, created⟩ | ⟨handle, read, created⟩ :=
    heap.newArray_cases signature elements
  · rw [created, read]
    rfl
  · rw [created, read]
    rfl

theorem frameIds_pushFrame
    (heap : Heap Body) (other : ThreadId) (frame : Frame) (thread : ThreadId) :
    (heap.pushFrame other frame).2.frameIds thread =
      issued thread (heap.draws (.pushFrame other frame)) ++ heap.frameIds thread := by
  -- a frame is pushed with its one id like a list of frames with theirs
  have drawn : heap.draws (.pushFrame other frame) =
      [(heap.allocate.1, frame)].map fun entry => (entry.1, some (.ofFrame other)) := rfl
  rw [drawn]
  by_cases same : thread = other
  · subst same
    rw [frameIds_pushFrame_self, issued_self]
    rfl
  · rw [frameIds_pushFrame_ne heap same, issued_ne same, List.nil_append]

/-- After a deed the frames of a thread have ids that were drawn for them just then, and below them
some of those that were there before. -/
theorem frameIds_undergo (heap : Heap Body) (deed : Deed Body) (thread : ThreadId) :
    ∃ kept, (heap.undergo deed).frameIds thread = issued thread (heap.draws deed) ++ kept ∧
      kept.Sublist (heap.frameIds thread) := by
  by_cases stores : deed.stores = true
  · rw [(alike_undergo stores).frameIds, heap.draws_of_stores stores]
    exact ⟨_, rfl, .refl _⟩
  cases deed with
  | addClass | newString => exact ⟨_, rfl, .refl _⟩
  | newObject className =>
      rw [draws, undergo, newObject_eq, loading]
      split
      · exact ⟨_, rfl, .refl _⟩
      · exact ⟨_, rfl, .refl _⟩
  | newArray signature elements =>
      exact ⟨_, heap.frameIds_newArray signature elements thread, .refl _⟩
  | allocateArray signature length =>
      rw [undergo]
      obtain ⟨none, error, refused⟩ | ⟨elements, drawn, created⟩ :=
        heap.allocateArray_cases signature length
      · rw [none, refused]
        exact ⟨_, rfl, .refl _⟩
      · rw [drawn, created]
        exact ⟨_, heap.frameIds_newArray signature elements thread, .refl _⟩
  | pushFrame other frame => exact ⟨_, heap.frameIds_pushFrame other frame thread, .refl _⟩
  | popFrame other =>
      by_cases same : thread = other
      · subst same
        exact ⟨_, heap.frameIds_popFrame_self thread, List.drop_sublist 1 _⟩
      · exact ⟨_, heap.frameIds_popFrame_ne same, .refl _⟩
  | reissueFrames other =>
      rw [undergo, draws]
      by_cases same : thread = other
      · subst same
        refine ⟨[], ?_, List.nil_sublist _⟩
        rw [frameIds_reissueFrames_self, issued_self, List.append_nil]
      · refine ⟨_, ?_, .refl _⟩
        rw [frameIds_reissueFrames_ne heap same, issued_ne same, List.nil_append]
  | _ => exact (stores rfl).elim

/-! ## What ids refer to after a deed -/

section

variable {id : UInt64} {referent : Referent}

theorem refers_addClass
    {definition : ClassDefinition Body} (refers : (heap.addClass definition).2.Refers id referent) :
    heap.Refers id referent ∨ (id, some referent) ∈ heap.draws (.addClass definition) := by
  cases referent with
  | ofClass signature =>
      obtain named | loaded := refers
      · obtain ⟨rfl, rfl⟩ | before := Table.eq_or_of_find?_insert _ named
        · exact .inr (List.mem_singleton_self _)
        · exact .inl (.inl before)
      · obtain ⟨rfl, rfl⟩ | before := Table.eq_or_of_map_find?_insert _ loaded
        · exact .inr (List.mem_singleton_self _)
        · exact .inl (.inr before)
  | _ => exact .inl refers

theorem refers_withObject
    {object : HeapObject} (refers : (heap.withObject object).Refers id referent) :
    heap.Refers id referent ∨
      id = heap.allocate.1 ∧ referent = .ofObject object.className := by
  cases referent with
  | ofObject className =>
      obtain ⟨rfl, rfl⟩ | before := Table.eq_or_of_map_find?_insert _ refers
      · exact .inr ⟨rfl, rfl⟩
      · exact .inl before
  | _ => exact .inl refers

theorem withObject_refers (heap : Heap Body) (object : HeapObject) :
    (heap.withObject object).Refers heap.allocate.1 (.ofObject object.className) := by
  rw [Refers, withObject, Table.find?_insert_self]
  rfl

/-- An object is created in the heap in which its class is loaded. -/
theorem refers_newObject
    {className : String} (refers : (heap.newObject className).2.Refers id referent) :
    heap.Refers id referent ∨ (id, some referent) ∈ heap.draws (.newObject className) := by
  rw [newObject_eq] at refers
  rw [draws]
  obtain before | ⟨rfl, rfl⟩ := refers_withObject refers
  · rw [loading] at before
    split at before
    · exact .inl before
    · next unloaded =>
      rw [if_neg unloaded]
      refine (refers_addClass before).imp_right fun drawn => ?_
      rw [draws, List.mem_singleton] at drawn
      exact List.mem_cons.2 (.inl drawn)
  · right
    rw [loading]
    split
    · exact List.mem_singleton_self _
    · exact List.mem_cons_of_mem _ (List.mem_singleton_self _)

theorem refers_newString
    {text : String} (refers : (heap.newString text).2.Refers id referent) :
    heap.Refers id referent ∨ (id, some referent) ∈ heap.draws (.newString text) := by
  cases referent with
  | ofString other =>
      obtain ⟨rfl, rfl⟩ | before := Table.eq_or_of_find?_insert _ refers
      · exact .inr (List.mem_singleton_self _)
      · exact .inl before
  | _ => exact .inl refers

theorem refers_newArray
    {signature : String} {elements : List RemoteValue}
    (refers : (heap.newArray signature elements).2.Refers id referent) :
    heap.Refers id referent ∨
      (id, some referent) ∈ heap.draws (.newArray signature elements) := by
  obtain ⟨error, read, created⟩ | ⟨handle, read, created⟩ :=
    heap.newArray_cases signature elements
  · rw [created] at refers
    left
    cases referent <;> exact refers
  · rw [created] at refers
    cases referent with
    | ofArray other =>
        obtain ⟨rfl, rfl⟩ | before := Table.eq_or_of_map_find?_insert _ refers
        · right
          rw [draws, arrayDrawing, read]
          exact List.mem_singleton_self _
        · exact .inl before
    | _ => exact .inl refers

theorem refers_allocateArray
    {signature : String} {length : Int32}
    (refers : (heap.allocateArray signature length).2.Refers id referent) :
    heap.Refers id referent ∨
      (id, some referent) ∈ heap.draws (.allocateArray signature length) := by
  obtain ⟨-, error, refused⟩ | ⟨elements, drawn, created⟩ :=
    heap.allocateArray_cases signature length
  · rw [refused] at refers
    exact .inl refers
  · rw [created] at refers
    rw [drawn]
    exact refers_newArray refers

/-- New ids for frames concern nothing but frames. -/
theorem refers_reissueFrames
    {thread : ThreadId} (apart : ∀ thread, referent ≠ .ofFrame thread)
    (refers : (heap.reissueFrames thread).Refers id referent) : heap.Refers id referent := by
  rw [reissueFrames] at refers
  cases known : heap.threads.find? thread with
  | none =>
      rw [known] at refers
      exact refers
  | some frames =>
      rw [known] at refers
      dsimp only at refers
      rw [(reissue_eq frames heap).2] at refers
      cases referent with
      | ofFrame other => exact (apart other rfl).elim
      | _ => exact refers

/-- What an id refers to after a deed it referred to before, or it was drawn for it. -/
theorem refers_undergo
    {deed : Deed Body} (refers : (heap.undergo deed).Refers id referent) :
    heap.Refers id referent ∨ (id, some referent) ∈ heap.draws deed := by
  by_cases stores : deed.stores = true
  · exact .inl (((alike_undergo stores).refers_iff id referent).1 refers)
  by_cases framed : ∃ thread, referent = .ofFrame thread
  · obtain ⟨thread, rfl⟩ := framed
    obtain ⟨kept, same, part⟩ := heap.frameIds_undergo deed thread
    rw [Refers, same] at refers
    obtain given | left := List.mem_append.1 refers
    · exact .inr (mem_issued.1 given)
    · exact .inl (part.mem left)
  have apart (thread : ThreadId) : referent ≠ .ofFrame thread := fun same => framed ⟨thread, same⟩
  cases deed with
  | addClass => exact refers_addClass refers
  | newObject => exact refers_newObject refers
  | newString => exact refers_newString refers
  | newArray => exact refers_newArray refers
  | allocateArray => exact refers_allocateArray refers
  | pushFrame | popFrame =>
      left
      cases referent with
      | ofFrame thread => exact (apart thread rfl).elim
      | _ => exact refers
  | reissueFrames => exact .inl (refers_reissueFrames apart refers)
  | _ => exact (stores rfl).elim

end

theorem refers_of_newArray
    {signature : String} {elements : List RemoteValue} {id : UInt64}
    (given : (heap.newArray signature elements).1.toOption.bind RemoteValue.objectId? = some id) :
    ∃ referent, [heap.arrayDrawing signature].getLast? = some (id, some referent) ∧
      (heap.newArray signature elements).2.Refers id referent := by
  obtain ⟨error, -, created⟩ | ⟨handle, read, created⟩ := heap.newArray_cases signature elements
  · rw [created] at given
    cases given
  · rw [created] at given
    have same : heap.allocate.1 = handle.id := by
      rw [ArrayHandle.ofSignature] at read
      split at read <;> cases read
      rfl
    cases given
    refine ⟨.ofArray handle, ?_, ?_⟩
    · rw [arrayDrawing, read, ← same]
      rfl
    · rw [created, Refers, same, Table.find?_insert_self]
      rfl

/-- The id that is handed back after a deed is the last one that it drew, and it refers to that for
which it was drawn. -/
theorem refers_of_handsBack
    {deed : Deed Body} {id : UInt64} (given : heap.handsBack deed = some id) :
    ∃ referent, (heap.draws deed).getLast? = some (id, some referent) ∧
      (heap.undergo deed).Refers id referent := by
  cases deed with
  | addClass definition =>
      cases given
      exact ⟨_, rfl, .inl (Table.find?_insert_self _ _ _)⟩
  | newObject className =>
      rw [handsBack, newObject_eq] at given
      cases given
      refine ⟨.ofObject className, ?_, (heap.loading className).withObject_refers _⟩
      rw [draws, loading]
      split <;> rfl
  | newString text =>
      cases given
      exact ⟨_, rfl, Table.find?_insert_self _ _ _⟩
  | newArray signature elements => exact refers_of_newArray given
  | allocateArray signature length =>
      rw [handsBack] at given
      obtain ⟨-, error, refused⟩ | ⟨elements, drawn, created⟩ :=
        heap.allocateArray_cases signature length
      · rw [refused] at given
        cases given
      · rw [created] at given
        rw [drawn, undergo, created]
        exact refers_of_newArray given
  | pushFrame thread frame =>
      cases given
      refine ⟨_, rfl, ?_⟩
      rw [Refers, undergo, frameIds_pushFrame_self]
      exact List.mem_cons_self
  | _ => cases given

end FrameEval.Heap
