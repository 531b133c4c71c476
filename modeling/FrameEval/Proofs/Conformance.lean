import FrameEval.Proofs.Evaluation.Turn

/-!
# Conformance of stored values

Whatever an evaluation hands over to the target, be it to a field, an element of an array, a
slot of the frame or a parameter, was first assigned to the type that is declared there.  Since
the test of a reference asks the target, the property is one of the exchanges of a single turn:
the member was found in it, and so was the runtime type of the value.
-/

namespace FrameEval

open Dialogue Evaluation Wire

namespace Evaluation

/-- From the start of a turn the members are resolved and the values fit their types. -/
def conformRegime (setting : Setting) : Regime where
  asks record inquiry := ∀ operation, inquiry = .operation operation →
    Conforms setting.searchLimit record operation ∧ Resolved setting record operation
  stops _ _ := True
  holds _ _ activation := activation.stack.exception = none
  thrown _ _ := True

/-- A description hands over nothing, also to the method that tells the message. -/
theorem Telling.conforms
    {setting : Setting} {exception : ObjectHandle} {more : Record} {operation : Operation}
    (telling : Telling setting exception more operation) (limit : Nat) (record : Record) :
    Conforms limit (record ++ more) operation ∧
      Resolved setting (record ++ more) operation := by
  cases telling with
  | name => exact ⟨conforms_of_nil rfl rfl, trivial⟩
  | text => exact ⟨conforms_of_nil rfl rfl, trivial⟩
  | wording wording =>
      cases wording with
      | lookUp => exact ⟨conforms_of_nil rfl rfl, trivial⟩
      | refetch nullary => exact ⟨conforms_of_nil rfl rfl, trivial⟩
      | call nullary => exact ⟨conforms_of_nil rfl nullary, messageSelector, by simp⟩

theorem conformRegime_asks
    {setting : Setting} {record : Record} {activation : Activation} {operation : Operation}
    (proper : Proper setting record activation operation) :
    (conformRegime setting).asks record (.operation operation) := by
  rintro _ ⟨⟩
  exact ⟨proper.conforms, proper.resolved⟩

theorem conformRegime_sound
    (setting : Setting) : (conformRegime setting).Sound setting where
  calm holds := holds
  restack _ _ calm _ := calm
  fails _ _ := trivial
  underflows _ _ := trivial
  exhausts _ := trivial
  aborts _ := trivial
  watches holds := ⟨by rintro operation ⟨⟩, fun _ => holds⟩
  performs holds proper _ :=
    ⟨conformRegime_asks proper, fun _ => holds, fun _ => trivial⟩
  runs _ proper _ := by
    refine ⟨conformRegime_asks proper, fun answer => ⟨?_, fun _ => trivial, fun _ => trivial⟩,
      fun _ => trivial⟩
    rintro _ ⟨⟩
    exact ⟨conforms_of_nil rfl rfl, trivial⟩
  resumes := by
    rintro height record activation outcome info later calm - -
    cases outcome with
    | returned value => exact calm
    | threw exception => trivial
  goesStale _ _ _ := trivial
  tells := by
    rintro exception record more operation - telling _ ⟨⟩
    exact telling.conforms _ record
  told _ _ := trivial

theorem conformRegime_allows
    (setting : Setting) (program : Program) :
    (conformRegime setting).Allows program fun _ => 0 :=
  Regime.allows_of_uncounted program (fun holds => holds) fun _ _ => trivial

/-- What a turn asks for within its own exchanges conforms. -/
theorem InTurn.conforms
    {setting : Setting} {program : Program} {watched : Bool} {frameId : FrameId}
    {record current : Record} {operation : Operation}
    (inTurn : InTurn setting program watched 0 ⟨frameId, .empty⟩ record current
      (.operation operation)) :
    Conforms setting.searchLimit current operation ∧ Resolved setting current operation := by
  cases inTurn with
  | intro passes found asks =>
      have sound := conformRegime_sound setting
      have allows := conformRegime_allows setting program
      have calm := (sound.passes allows passes [] (Nat.zero_le _) rfl).2
      have turned := (meets_iff _ _).1 (sound.turnFrom allows watched found [] _ calm)
      exact turned.1 current _ asks operation rfl

end Evaluation

/-- Whenever a run hands values over, they are as many as the types declared for them and fit
these one by one; the member was resolved and the runtime types were fetched in the same turn. -/
theorem handed_over_values_conform
    {context : Context} {mode : RunMode} {program : Program} {record : Record}
    {operation : Operation}
    (asks : (context.run mode program).Asks record (.operation operation)) :
    ∃ current,
      InTurn ⟨context.binding, mode.searchLimit⟩ program mode.watched 0
          ⟨context.frameId, .empty⟩ record current (.operation operation) ∧
        Resolved ⟨context.binding, mode.searchLimit⟩ current operation ∧
        ∃ declared, operation.declares? = some declared ∧
          operation.handsOver.length = declared.length ∧
          List.Forall₂ (Fits mode.searchLimit current) operation.handsOver declared := by
  have asks' := (context.asks_evaluate_iff _ _ _ _).1 asks
  rcases asks_runFrom asks' with ⟨current, inTurn⟩
  rcases inTurn.conforms with ⟨⟨declared, declares, fits⟩, resolved⟩
  exact ⟨current, inTurn, resolved, declared, declares, fits.length_eq, fits⟩

/-- An object of a class is stored where its superclass is declared. -/
def storeInStatic : Program :=
  [.pushLiteral (.object ⟨3, 76⟩), .staticFieldSet "LShop;" "owner"]

/-- The field is found, and the class of the object is found to extend the declared one. -/
def subclassFound : Record :=
  [success (.staticField "LShop;" "owner") ⟨5, 6, "owner", "LPerson;", true⟩,
    success (.typeSignature (.object ⟨3, 76⟩)) "LKeeper;",
    success (.supertypes "LKeeper;") ["LPerson;"]]

theorem stored_keeper_conforms :
    (Context.run ⟨⟨1, 0, ⟨1, 2, 3, 4⟩, .empty⟩, 7⟩ ⟨false, 5, 2⟩ storeInStatic).Asks
        subclassFound
        (.operation (.setField none ⟨5, 6, "owner", "LPerson;", true⟩ (.object ⟨3, 76⟩))) ∧
      ∃ current, Conforms 2 current
        (.setField none ⟨5, 6, "owner", "LPerson;", true⟩ (.object ⟨3, 76⟩)) := by
  have asks : (Context.run ⟨⟨1, 0, ⟨1, 2, 3, 4⟩, .empty⟩, 7⟩ ⟨false, 5, 2⟩
      storeInStatic).Asks subclassFound
      (.operation (.setField none ⟨5, 6, "owner", "LPerson;", true⟩ (.object ⟨3, 76⟩))) :=
    .later (.later (.later .here))
  rcases handed_over_values_conform asks with ⟨current, -, -, declared, declares, -, fits⟩
  exact ⟨asks, current, declared, declares, fits⟩

end FrameEval
