import FrameEval.Proofs.Link.History
import Mathlib.Data.List.Nodup
import Mathlib.Data.List.Perm.Basic
import Mathlib.Data.List.Range

/-!
# The numbering of commands

Callers and the link itself draw the ids of their commands from one counter.  The ids that a
history draws are therefore consecutive, and as long as they are fewer than there are ids none
is drawn twice.
-/

namespace FrameEval.Link

open Wire

namespace Entry

/-- The id that a caller draws. -/
def drafted (entry : Entry) : List PacketId :=
  match entry.happening with
  | .draft _ => [entry.counter]
  | _ => []

/-- The commands by which the link undoes the suspensions of the sets that it keeps back. -/
def ownCommands (entry : Entry) : List Command :=
  entry.effects.flatMap fun effect =>
    match effect with
    | .swallow set => Switchboard.number entry.counter (resumption set)
    | _ => []

/-- The ids that are drawn. -/
def drawn (entry : Entry) : List PacketId :=
  entry.drafted ++ entry.ownCommands.map Command.id

end Entry

/-- The ids that callers draw in a history. -/
def drafted (history : History) : List PacketId :=
  history.flatMap Entry.drafted

/-- The ids that the link draws for commands of its own. -/
def ownIds (history : History) : List PacketId :=
  history.flatMap fun entry => entry.ownCommands.map Command.id

/-- All ids that a history draws, the first one first. -/
def drawn (history : History) : List PacketId :=
  history.flatMap Entry.drawn

@[simp]
theorem drafted_append (history more : History) :
    drafted (history ++ more) = drafted history ++ drafted more :=
  List.flatMap_append

@[simp]
theorem ownIds_append (history more : History) :
    ownIds (history ++ more) = ownIds history ++ ownIds more :=
  List.flatMap_append

@[simp]
theorem drawn_append (history more : History) :
    drawn (history ++ more) = drawn history ++ drawn more :=
  List.flatMap_append

/-- If a history draws few ids, so does every earlier one. -/
theorem few_of_append
    {history more : History} {bound : Nat} (few : (drawn (history ++ more)).length < bound) :
    (drawn history).length < bound := by
  rw [drawn_append, List.length_append] at few
  omega

@[simp]
theorem drawn_singleton (entry : Entry) : drawn [entry] = entry.drawn := by
  simp [drawn]

@[simp]
theorem ownIds_singleton (entry : Entry) :
    ownIds [entry] = entry.ownCommands.map Command.id := by
  simp [ownIds]

/-- Every drawn id is drawn by a caller or by the link. -/
theorem drawn_perm (history : History) :
    (drawn history).Perm (drafted history ++ ownIds history) :=
  (List.flatMap_append_perm history _ _).symm

/-- So many consecutive ids. -/
def consecutive (first count : Nat) : List PacketId :=
  (List.range' first count).map UInt32.ofNat

theorem consecutive_append (first count more : Nat) :
    consecutive first count ++ consecutive (first + count) more =
      consecutive first (count + more) := by
  rw [consecutive, consecutive, ← List.map_append, List.range'_append_1]
  rfl

/-- Fewer consecutive ids than there are differ from each other. -/
theorem consecutive_nodup {count : Nat} (few : count < UInt32.size) :
    (consecutive 1 count).Nodup := by
  refine List.Nodup.map_on ?_ List.nodup_range'
  intro first firstMember second secondMember same
  have bounded {number : Nat} (member : number ∈ List.range' 1 count) :
      (UInt32.ofNat number).toNat = number := by
    rw [List.mem_range'_1] at member
    exact UInt32.toNat_ofNat_of_lt' (by omega)
  rw [← bounded firstMember, ← bounded secondMember, same]

namespace Switchboard

theorem ids_number (first : Nat) (orders : List Order) :
    (number (.ofNat first) orders).map Command.id = consecutive first orders.length := by
  induction orders generalizing first with
  | nil => rfl
  | cons order rest ih =>
      have next : UInt32.ofNat first + 1 = UInt32.ofNat (first + 1) := by
        rw [UInt32.ofNat_add]
        rfl
      rw [number, List.map_cons, next, ih]
      rfl

variable {board after : Switchboard} {happening : Happening} {effects : List Effect}

theorem ownCommands_eq_nil
    {effects : List Effect} (kept : ∀ set, Effect.swallow set ∉ effects)
    (happening : Happening) (counter : PacketId) :
    Entry.ownCommands ⟨happening, counter, effects⟩ = [] := by
  rw [Entry.ownCommands, List.flatMap_eq_nil_iff]
  intro effect member
  split
  · next set => exact (kept set member).elim
  · rfl

theorem ownCommands_swallow
    (board : Switchboard) (set : EventSet) (written : List Command) (happening : Happening) :
    Entry.ownCommands ⟨happening, board.nextId, .swallow set :: written.map .write⟩ =
      board.undoing set := by
  have rest : Entry.ownCommands ⟨happening, board.nextId, written.map .write⟩ = [] :=
    ownCommands_eq_nil (by simp) happening board.nextId
  rw [Entry.ownCommands] at rest ⊢
  rw [List.flatMap_cons, rest, List.append_nil, undoing]

/-- Whatever happens, the drawn ids are those of orders that are numbered from the counter on:
the order of a draft, or those that undo a suspension. -/
theorem Change.draws
    (change : Change board happening after effects) :
    ∃ orders, Entry.drawn ⟨happening, board.nextId, effects⟩ =
        (number board.nextId orders).map Command.id ∧
      after.nextId = board.nextId + UInt32.ofNat orders.length := by
  have nothing (kept : ∀ set, Effect.swallow set ∉ effects) (same : after.nextId = board.nextId)
      (undrafted : ∀ order, happening ≠ .draft order) :
      ∃ orders, Entry.drawn ⟨happening, board.nextId, effects⟩ =
          (number board.nextId orders).map Command.id ∧
        after.nextId = board.nextId + UInt32.ofNat orders.length := by
    refine ⟨[], ?_, by simp [same]⟩
    rw [Entry.drawn, ownCommands_eq_nil kept]
    cases happening with
    | draft order => exact (undrafted order rfl).elim
    | _ => rfl
  cases change with
  | draft order => exact ⟨[order], rfl, rfl⟩
  | swallow _ _ _ =>
      refine ⟨resumption _, ?_, rfl⟩
      rw [Entry.drawn, ownCommands_swallow]
      rfl
  | idle ignores =>
      refine nothing (by simp) rfl ?_
      rintro order rfl
      exact ignores
  | _ => exact nothing (by simp) rfl (by simp)

end Switchboard

/-- A history draws consecutive ids, and the counter shows the next one. -/
theorem Reached.numbered
    {capacity : Nat} {history : History} {board : Switchboard}
    (reached : Reached capacity history board) :
    drawn history = consecutive 1 (drawn history).length ∧
      board.nextId = .ofNat (1 + (drawn history).length) := by
  induction reached with
  | fresh => exact ⟨rfl, rfl⟩
  | @step history board reached happening ih =>
      rcases ih with ⟨earlier, next⟩
      obtain ⟨orders, now, later⟩ := (board.step_change happening).draws
      have whole : drawn (history ++ [board.entry happening]) =
          consecutive 1 ((drawn history).length + orders.length) := by
        rw [next, Switchboard.ids_number, ← next] at now
        rw [drawn_append, drawn_singleton, ← consecutive_append, ← earlier]
        exact congrArg _ now
      have length : (drawn (history ++ [board.entry happening])).length =
          (drawn history).length + orders.length := by
        rw [whole]
        simp [consecutive]
      rw [length]
      refine ⟨whole, ?_⟩
      rw [later, next, ← UInt32.ofNat_add, Nat.add_assoc]

/-- While the drawn ids are fewer than there are, none is drawn twice. -/
theorem Reached.drawn_nodup
    {capacity : Nat} {history : History} {board : Switchboard}
    (reached : Reached capacity history board) (few : (drawn history).length < UInt32.size) :
    (drawn history).Nodup := by
  rw [reached.numbered.1]
  exact consecutive_nodup few

end FrameEval.Link
