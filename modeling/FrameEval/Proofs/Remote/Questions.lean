import FrameEval.Proofs.Remote.Recall

/-!
# The questions of an errand

What an errand asks while it is carried out, in order.  The questions of a sequence are those of its
first part, and if that does not fail those of its second part.  Among them are the types that are
looked up; `Finds` says how an errand ends and which types it looks at on the way, as long as what
is known of types before meets a condition.
-/

namespace FrameEval.Remote

open Dialogue Wire

/-- The type that is looked up by a request. -/
def Request.sought? : Request → Option TypeId
  | .lookUp type => some type
  | _ => none

section

variable {State α β : Type} {link : Surroundings State}

namespace Surroundings

/-- What an errand asks while it is carried out. -/
def asked
    (link : Surroundings State) (errand : Errand α) (known : Knowledge State) : List Request :=
  (errand.run.transcript link.handle known).map Sigma.fst

theorem asked_ofExcept
    (link : Surroundings State) (result : Except EvalError α) (known : Knowledge State) :
    link.asked (Errand.ofExcept result) known = [] := by
  cases result <;> rfl

theorem asked_bind
    (link : Surroundings State) (errand : Errand α) (onward : α → Errand β)
    (known : Knowledge State) :
    link.asked (errand >>= onward) known =
      link.asked errand known ++
        match link.carryOut errand known with
        | (.ok value, after) => link.asked (onward value) after
        | (.error _, _) => [] := by
  rw [asked, ExceptT.run_bind, transcript_bind, List.map_append, carryOut]
  rcases errand.run.run link.handle known with ⟨result, after⟩
  cases result <;> rfl

theorem asked_call
    (link : Surroundings State) (call : Call α) (known : Knowledge State) :
    link.asked (Errand.call call) known = [.send call.order] := by
  rw [Errand.call, asked_bind]
  show [Request.send call.order] ++ _ = _
  rcases known with ⟨types, state⟩
  rw [carryOut_attempt]
  cases link.told call state <;> rfl

end Surroundings

/-! ## Looking at types -/

/-- The types that an errand looks at, in order. -/
def Surroundings.lookedUp
    (link : Surroundings State) (errand : Errand α) (known : Knowledge State) : List TypeId :=
  (link.asked errand known).filterMap Request.sought?

theorem Surroundings.lookedUp_call
    (link : Surroundings State) (call : Call α) (known : Knowledge State) :
    link.lookedUp (Errand.call call) known = [] := by
  rw [lookedUp, asked_call]
  rfl

theorem Surroundings.lookedUp_bind
    (link : Surroundings State) (errand : Errand α) (onward : α → Errand β)
    (known : Knowledge State) :
    link.lookedUp (errand >>= onward) known =
      link.lookedUp errand known ++
        match link.carryOut errand known with
        | (.ok value, after) => link.lookedUp (onward value) after
        | (.error _, _) => [] := by
  rw [lookedUp, asked_bind, List.filterMap_append]
  rcases link.carryOut errand known with ⟨result, after⟩
  cases result <;> rfl

/-- An errand that looks at no type before another one that does not either. -/
theorem Surroundings.lookedUp_bind_eq_nil
    {errand : Errand α} {onward : α → Errand β} (first : ∀ known, link.lookedUp errand known = [])
    (rest : ∀ value known, link.lookedUp (onward value) known = []) (known : Knowledge State) :
    link.lookedUp (errand >>= onward) known = [] := by
  rw [lookedUp_bind, first]
  rcases link.carryOut errand known with ⟨⟨halt⟩ | value, after⟩
  · rfl
  · exact rest value after

theorem Surroundings.lookedUp_fetchMetadata
    (link : Surroundings State) (type : TypeHandle) (known : Knowledge State) :
    link.lookedUp (Errand.fetchMetadata type) known = [] := by
  apply lookedUp_bind_eq_nil (link.lookedUp_call _)
  intro signature
  have members : ∀ superclass known, link.lookedUp
      (do
        let interfaces ← Errand.call (Call.interfaces type.id)
        let fields ← Errand.call (Call.fields type.id)
        let methods ← Errand.call (Call.methods type.id)
        return (⟨signature, superclass, interfaces, fields, methods⟩ : TypeMetadata))
      known = [] := by
    intro superclass
    apply lookedUp_bind_eq_nil (link.lookedUp_call _)
    intro interfaces
    apply lookedUp_bind_eq_nil (link.lookedUp_call _)
    intro fields
    apply lookedUp_bind_eq_nil (link.lookedUp_call _)
    intro methods known
    rfl
  dsimp only
  split
  · exact lookedUp_bind_eq_nil (link.lookedUp_call _) members
  · exact members none

/-- To learn what a type declares is to look at this type once. -/
theorem Surroundings.lookedUp_metadata
    (link : Surroundings State) (type : TypeHandle) (known : Knowledge State) :
    link.lookedUp (Errand.metadata type) known = [type.id] := by
  rw [Errand.metadata, lookedUp_bind, carryOut_ask]
  refine congrArg (List.cons type.id) ?_
  dsimp only [handle]
  cases known.types.find? type.id with
  | some metadata => rfl
  | none =>
      show link.lookedUp (Errand.fetchMetadata type >>= _) known = []
      apply lookedUp_bind_eq_nil (link.lookedUp_fetchMetadata type)
      intro metadata known
      rfl

/-- Whatever is known that meets a condition, the errand ends with one result, and it looks at
certain types in a certain order. -/
def Finds
    (link : Surroundings State) (sound : Table TypeId TypeMetadata → Prop) (errand : Errand α)
    (result : Except Halt α) (visited : List TypeId) : Prop :=
  ∀ known, sound known.types →
    (link.carryOut errand known).1 = result ∧ link.lookedUp errand known = visited

/-- Whatever is known that meets a condition, what is learned about a type fits, and what is known
afterwards meets the condition again. -/
def Learns
    (link : Surroundings State) (sound : Table TypeId TypeMetadata → Prop) (type : TypeHandle)
    (fits : TypeMetadata → Prop) : Prop :=
  ∀ known, sound known.types → ∃ metadata after,
    link.carryOut (Errand.metadata type) known = (.ok metadata, after) ∧ fits metadata ∧
      sound after.types

theorem learns_of_tells
    {sound : Table TypeId TypeMetadata → Prop} {fits : TypeMetadata → Prop}
    {declarations : Declarations} {type : TypeHandle} {metadata : TypeMetadata}
    (tells : link.Tells declarations type) (loaded : declarations.load type = .ok metadata)
    (fit : fits metadata)
    (recalled : ∀ types, sound types → ∀ metadata, types.find? type.id = some metadata →
      fits metadata)
    (keeps : ∀ types, sound types → sound (types.insert type.id metadata)) :
    Learns link sound type fits := by
  intro known holds
  cases found : known.types.find? type.id with
  | some remembered =>
      exact ⟨remembered, known, link.carryOut_metadata_of_known found,
        recalled _ holds _ found, holds⟩
  | none =>
      have whole := link.carryOut_metadata_of_unknown found
      rcases fetches_metadata tells known.types known.state with ⟨state, fetched⟩
      rw [loaded] at fetched
      have learned : link.carryOut (Errand.metadata type) known = _ :=
        whole.trans (by rw [show link.carryOut (Errand.fetchMetadata type) known = _ from fetched])
      exact ⟨metadata, _, learned, fit, keeps _ holds⟩

namespace Finds

variable {sound : Table TypeId TypeMetadata → Prop}

theorem pure (value : α) : Finds link sound (Pure.pure value : Errand α) (.ok value) [] :=
  fun _ _ => ⟨rfl, rfl⟩

theorem fail (error : EvalError) :
    Finds link sound (Errand.fail error : Errand α) (.error (.failed error)) [] :=
  fun _ _ => ⟨rfl, rfl⟩

/-- A stronger condition on what is known. -/
theorem strengthen
    {stronger : Table TypeId TypeMetadata → Prop} {errand : Errand α} {result : Except Halt α}
    {visited : List TypeId} (finds : Finds link sound errand result visited)
    (implies : ∀ types, stronger types → sound types) :
    Finds link stronger errand result visited :=
  fun known strong => finds known (implies known.types strong)

/-- What comes after a type was looked at. -/
theorem visit
    {type : TypeHandle} {fits : TypeMetadata → Prop} (learns : Learns link sound type fits)
    {onward : TypeMetadata → Errand α} {result : Except Halt α} {visited : List TypeId}
    (rest : ∀ metadata, fits metadata → Finds link sound (onward metadata) result visited) :
    Finds link sound (Errand.metadata type >>= onward) result (type.id :: visited) := by
  intro known holds
  rcases learns known holds with ⟨metadata, between, learned, fit, stillHolds⟩
  rcases rest metadata fit between stillHolds with ⟨ended, looked⟩
  constructor
  · rw [Surroundings.carryOut_bind, learned]
    exact ended
  · rw [Surroundings.lookedUp_bind, Surroundings.lookedUp_metadata, learned]
    exact congrArg (List.cons type.id) looked

end Finds

end

end FrameEval.Remote
