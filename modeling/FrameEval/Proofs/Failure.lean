import FrameEval.Proofs.Evaluation.Turn

/-!
# Failures of operations

A failed operation is the last one of a run, and the run ends in the same failure.  There is one
exception: once an invocation of the program has thrown, the run asks for the detail message of
what it threw, and a failure of this aside is muted unless the connection was lost.

`Seeks` recognises the aside by the record alone: its questions come after the first throw of
the run, which is therefore one of the program's own.
-/

namespace FrameEval

open Dialogue Evaluation Wire

namespace Evaluation

/-! ## Records without failures and without throws -/

/-- No operation of a record failed. -/
def Unbroken (record : Record) : Prop :=
  ∀ operation halt, failure operation halt ∉ record

theorem unbroken_nil : Unbroken [] :=
  fun _ _ member => List.not_mem_nil member

theorem Unbroken.append
    {record more : Record} (first : Unbroken record) (rest : Unbroken more) :
    Unbroken (record ++ more) := by
  intro operation halt member
  rcases List.mem_append.1 member with earlier | later
  · exact first operation halt earlier
  · exact rest operation halt later

theorem Unbroken.success
    {operation : Operation} {answer : operation.Answer} {record : Record}
    (unbroken : Unbroken record) :
    Unbroken (success operation answer :: record) := by
  intro other halt member
  rcases List.mem_cons.1 member with same | later
  · cases same
  · exact unbroken other halt later

/-- An exchange in which an invocation threw. -/
inductive Throws : Exchange Inquiry.Answer → Prop where
  | method
      {thread : ThreadId} {receiver : Option RemoteValue} {method : MethodRef}
      {arguments : List RemoteValue} {exception : ObjectHandle} :
      Throws (success (.invoke thread receiver method arguments) (.threw exception))
  | construction
      {thread : ThreadId} {constructor : MethodRef} {arguments : List RemoteValue}
      {exception : ObjectHandle} :
      Throws (success (.newInstance thread constructor arguments) (.threw exception))

/-- No invocation of a record threw. -/
def Unthrown (record : Record) : Prop :=
  ∀ exchange ∈ record, ¬ Throws exchange

theorem Unthrown.append
    {record more : Record} (first : Unthrown record) (rest : Unthrown more) :
    Unthrown (record ++ more) := by
  intro exchange member
  rcases List.mem_append.1 member with earlier | later
  · exact first exchange earlier
  · exact rest exchange later

theorem unthrown_success
    {operation : Operation} {answer : operation.Answer} (still : operation.runsCode = false) :
    Unthrown [success operation answer] := by
  intro exchange member throws
  rw [List.mem_singleton.1 member] at throws
  cases throws with
  | method => cases still
  | construction => cases still

/-- The first throw splits a record in one way. -/
theorem Unthrown.split_unique
    {before other : Record} {first second : Exchange Inquiry.Answer} {rest more : Record}
    (unthrown : Unthrown before) (unthrown' : Unthrown other)
    (throws : Throws first) (throws' : Throws second)
    (same : before ++ first :: rest = other ++ second :: more) :
    rest = more := by
  induction before generalizing other with
  | nil =>
      cases other with
      | nil =>
          rw [List.nil_append, List.nil_append] at same
          exact (List.cons.inj same).2
      | cons exchange other =>
          rcases List.cons.inj same with ⟨rfl, -⟩
          exact (unthrown' first (List.mem_cons_self ..) throws).elim
  | cons exchange before ih =>
      cases other with
      | nil =>
          rcases List.cons.inj same with ⟨rfl, -⟩
          exact (unthrown exchange (List.mem_cons_self ..) throws').elim
      | cons exchange' other =>
          exact ih (fun _ member => unthrown _ (List.mem_cons_of_mem _ member))
            (fun _ member => unthrown' _ (List.mem_cons_of_mem _ member))
            (List.cons.inj same).2

theorem Invoked.throws
    {binding : Binding} {before later : Record} {exception : ObjectHandle} {info : FrameInfo}
    (invoked : Invoked binding before (.threw exception) info later) :
    ∃ exchange, Throws exchange ∧
      later = before ++ [exchange, success (.frame binding.thread binding.depth) info] := by
  cases invoked with
  | method => exact ⟨_, .method, rfl⟩
  | construction => exact ⟨_, .construction, rfl⟩

/-! ## The aside for a detail message -/

variable (setting : Setting)

/-- A question for the detail message of the exception that the first throw of a run left. -/
inductive Seeks (exception : ObjectHandle) (signature : String) :
    Record → Operation → Prop where
  | intro
      {before thrown rest : Record} {info : FrameInfo} {operation : Operation}
      (unthrown : Unthrown before)
      (invoked : Invoked setting.binding before (.threw exception) info thrown)
      (wording : Wording setting exception rest operation) :
      Seeks exception signature
        (thrown ++ success (.typeSignature (.object exception)) signature :: rest) operation

/-- What a run ends in when an operation fails. -/
structure Verdict (record : Record) (operation : Operation) (halt final : Halt) : Prop where
  lost : halt.isFinal = true → final = halt
  passed : (∀ exception signature, ¬ Seeks setting exception signature record operation) →
    final = halt
  muted : halt.isFinal = false → ∀ exception signature,
    Seeks setting exception signature record operation →
      final = .failed (.remoteException (Signature.typeName signature) exception.id)

variable {setting}

theorem Seeks.split
    {record : Record} {operation : Operation} {exception : ObjectHandle} {signature : String}
    (seeks : Seeks setting exception signature record operation) :
    ∃ before thrower info rest, Unthrown before ∧ Throws thrower ∧
      record = before ++ thrower ::
        success (.frame setting.binding.thread setting.binding.depth) info ::
        success (.typeSignature (.object exception)) signature :: rest := by
  rcases seeks with ⟨unthrown, invoked, -⟩
  rcases invoked.throws with ⟨thrower, throws, rfl⟩
  exact ⟨_, thrower, _, _, unthrown, throws, List.append_assoc _ _ _⟩

/-- Without a throw no message is sought. -/
theorem Unthrown.not_seeks
    {record : Record} (unthrown : Unthrown record) (operation : Operation)
    (exception : ObjectHandle) (signature : String) :
    ¬ Seeks setting exception signature record operation := by
  intro seeks
  rcases seeks.split with ⟨before, thrower, info, rest, -, throws, rfl⟩
  exact unthrown thrower (by simp) throws

/-- After a throw the frame is fetched before a message is sought. -/
theorem Unthrown.not_seeks_next
    {record : Record} (unthrown : Unthrown record) (exchange : Exchange Inquiry.Answer)
    (operation : Operation) (exception : ObjectHandle) (signature : String) :
    ¬ Seeks setting exception signature (record ++ [exchange]) operation := by
  intro seeks
  rcases seeks.split with ⟨before, thrower, info, rest, -, throws, split⟩
  have shorter : record = before ++ thrower ::
      (success (.frame setting.binding.thread setting.binding.depth) info ::
        success (.typeSignature (.object exception)) signature :: rest).dropLast := by
    simpa using congrArg List.dropLast split
  exact unthrown thrower (by rw [shorter]; simp) throws

/-- There is one message that may be sought. -/
theorem Seeks.unique
    {before thrown rest : Record} {exception other : ObjectHandle} {signature name : String}
    {info : FrameInfo} {operation : Operation}
    (unthrown : Unthrown before)
    (invoked : Invoked setting.binding before (.threw exception) info thrown)
    (seeks : Seeks setting other name
      (thrown ++ success (.typeSignature (.object exception)) signature :: rest) operation) :
    other = exception ∧ name = signature := by
  rcases seeks.split with ⟨before', thrower', info', rest', unthrown', throws', split⟩
  rcases invoked.throws with ⟨thrower, throws, rfl⟩
  rw [List.append_assoc] at split
  have same := unthrown.split_unique unthrown' throws throws' split
  cases same
  exact ⟨rfl, rfl⟩

/-- Other questions of a description are no part of the aside. -/
theorem Seeks.wording
    {record : Record} {operation : Operation} {exception : ObjectHandle} {signature : String}
    (seeks : Seeks setting exception signature record operation) :
    ∃ rest, Wording setting exception rest operation := by
  rcases seeks with ⟨-, -, wording⟩
  exact ⟨_, wording⟩

/-- Apart from the aside a run ends in the failure itself. -/
theorem verdict_apart
    {record : Record} {operation : Operation} (halt : Halt)
    (apart : ∀ exception signature, ¬ Seeks setting exception signature record operation) :
    Verdict setting record operation halt halt where
  lost _ := rfl
  passed _ := rfl
  muted _ exception signature seeks := (apart exception signature seeks).elim

theorem verdict_final
    {record : Record} {operation : Operation} {halt : Halt} (isFinal : halt.isFinal = true) :
    Verdict setting record operation halt halt where
  lost _ := rfl
  passed _ := rfl
  muted passing := by
    rw [isFinal] at passing
    cases passing

/-- In the aside any other failure gives way to the exception. -/
theorem verdict_muted
    {before thrown rest : Record} {exception : ObjectHandle} {signature : String}
    {info : FrameInfo} {operation : Operation} {halt : Halt}
    (unthrown : Unthrown before)
    (invoked : Invoked setting.binding before (.threw exception) info thrown)
    (wording : Wording setting exception rest operation) (passing : halt.isFinal = false) :
    Verdict setting
      (thrown ++ success (.typeSignature (.object exception)) signature :: rest) operation halt
      (.failed (.remoteException (Signature.typeName signature) exception.id)) where
  lost isFinal := by
    rw [isFinal] at passing
    cases passing
  passed apart := (apart exception signature (.intro unthrown invoked wording)).elim
  muted _ other name seeks := by
    rcases Seeks.unique unthrown invoked seeks with ⟨rfl, rfl⟩
    rfl

/-! ## The regime -/

/-- A halt that a run may end in: one of its own, or the verdict on a failed operation. -/
def Justified (setting : Setting) (record : Record) (final : Halt) : Prop :=
  Unbroken record ∨
    ∃ good operation halt, record = good ++ [failure operation halt] ∧ Unbroken good ∧
      Verdict setting good operation halt final

theorem justified_failure
    {good : Record} {operation : Operation} {halt final : Halt}
    (unbroken : Unbroken good) (verdict : Verdict setting good operation halt final) :
    Justified setting (good ++ [failure operation halt]) final :=
  .inr ⟨good, operation, halt, rfl, unbroken, verdict⟩

/-- Nothing is asked once an operation has failed. -/
def failureRegime (setting : Setting) : Regime where
  asks record _ := Unbroken record
  stops := Justified setting
  holds _ record activation := activation.stack.exception = none ∧
    Unbroken record ∧ Unthrown record
  thrown exception record := Unbroken record ∧
    ∃ before info, Unthrown before ∧
      Invoked setting.binding before (.threw exception) info record

theorem unbroken_invoked
    {before later : Record} {outcome : InvokeOutcome} {info : FrameInfo}
    (unbroken : Unbroken before)
    (invoked : Invoked setting.binding before outcome info later) :
    Unbroken later := by
  rcases invoked.split with ⟨operation, answer, rfl⟩
  exact unbroken.append unbroken_nil.success.success

theorem unthrown_invoked
    {before later : Record} {value : RemoteValue} {info : FrameInfo}
    (unthrown : Unthrown before)
    (invoked : Invoked setting.binding before (.returned value) info later) :
    Unthrown later := by
  cases invoked with
  | method =>
      refine unthrown.append fun exchange member throws => ?_
      rcases List.mem_cons.1 member with rfl | last
      · cases throws
      · exact unthrown_success rfl exchange last throws
  | construction =>
      refine unthrown.append fun exchange member throws => ?_
      rcases List.mem_cons.1 member with rfl | last
      · cases throws
      · exact unthrown_success rfl exchange last throws

theorem unbroken_admits
    {record : Record} {operation : Operation} {after : Record → operation.Answer → Prop}
    (unbroken : Unbroken record)
    (apart : ∀ exception signature, ¬ Seeks setting exception signature record operation)
    (returns : ∀ answer, Unbroken (record ++ [success operation answer]) →
      after (record ++ [success operation answer]) answer) :
    (failureRegime setting).Admits record operation after where
  asks := unbroken
  returns answer := returns answer (unbroken.append unbroken_nil.success)
  stops halt := justified_failure unbroken (verdict_apart halt apart)

theorem unbroken_answered
    {exception : ObjectHandle} {signature : String} {method : MethodRef}
    {outcome : InvokeOutcome} {info : FrameInfo} :
    Unbroken (answered setting exception signature method outcome info) :=
  unbroken_nil.success.success.success.success

/-- The questions of a description come before any failure. -/
theorem Telling.unbroken
    {exception : ObjectHandle} {record : Record} {operation : Operation}
    (telling : Telling setting exception record operation) :
    Unbroken record := by
  cases telling with
  | name => exact unbroken_nil
  | wording wording =>
      cases wording with
      | lookUp => exact unbroken_nil.success
      | call => exact unbroken_nil.success.success
      | refetch => exact unbroken_nil.success.success.success
  | text => exact unbroken_answered

/-- The end of a description is justified. -/
theorem Told.justified
    {exception : ObjectHandle} {before thrown more : Record} {info : FrameInfo} {final : Halt}
    (unbroken : Unbroken thrown) (unthrown : Unthrown before)
    (invoked : Invoked setting.binding before (.threw exception) info thrown)
    (told : Told setting exception more final) :
    Justified setting (thrown ++ more) final := by
  have answers : ∀ {signature method outcome info},
      Unbroken (thrown ++ answered setting exception signature method outcome info) :=
    unbroken.append unbroken_answered
  cases told with
  | unnamed =>
      refine justified_failure unbroken (verdict_apart final fun other name seeks => ?_)
      rcases seeks.wording with ⟨rest, wording⟩
      cases wording
  | passed muted isFinal =>
      cases muted with
      | refused wording =>
          rw [← List.cons_append, ← List.append_assoc]
          exact justified_failure (unbroken.append (Telling.wording wording).unbroken)
            (verdict_final isFinal)
      | unsplit => exact .inl (unbroken.append unbroken_nil.success.success)
      | arity => cases isFinal
      | stale => cases isFinal
  | muted muted passing =>
      cases muted with
      | refused wording =>
          rw [← List.cons_append, ← List.append_assoc]
          exact justified_failure (unbroken.append (Telling.wording wording).unbroken)
            (verdict_muted unthrown invoked wording passing)
      | unsplit => cases passing
      | arity => exact .inl (unbroken.append unbroken_nil.success.success)
      | stale => exact .inl answers
  | silent => exact .inl answers
  | unread =>
      rw [← List.append_assoc]
      refine justified_failure answers (verdict_apart final fun other name seeks => ?_)
      rcases seeks.wording with ⟨rest, wording⟩
      cases wording
  | said =>
      rw [← List.append_assoc]
      exact .inl (answers.append unbroken_nil.success)

theorem failureRegime_sound
    (setting : Setting) : (failureRegime setting).Sound setting where
  calm holds := holds.1
  restack _ holds calm _ := ⟨calm, holds.2⟩
  fails holds _ := .inl holds.2.1
  underflows holds _ := .inl holds.2.1
  exhausts holds := .inl holds.2.1
  aborts holds := .inl holds.2.1
  watches := by
    rintro height record activation ⟨calm, unbroken, unthrown⟩
    refine ⟨unbroken, fun answer => ⟨calm, ?_, ?_⟩⟩
    · refine unbroken.append fun operation halt member => ?_
      cases List.mem_singleton.1 member
    · refine unthrown.append fun exchange member throws => ?_
      rw [List.mem_singleton.1 member] at throws
      cases throws
  performs := by
    rintro height record activation operation ⟨calm, unbroken, unthrown⟩ - still
    refine unbroken_admits unbroken (unthrown.not_seeks operation) fun answer longer => ?_
    exact ⟨calm, longer, unthrown.append (unthrown_success still)⟩
  runs := by
    rintro height record activation operation ⟨-, unbroken, unthrown⟩ - -
    refine unbroken_admits unbroken (unthrown.not_seeks operation) fun answer longer => ?_
    exact unbroken_admits longer (unthrown.not_seeks_next _ _) fun _ _ => trivial
  resumes := by
    rintro height record activation outcome info later ⟨calm, unbroken, unthrown⟩ invoked -
    cases outcome with
    | returned value =>
        exact ⟨calm, unbroken_invoked unbroken invoked, unthrown_invoked unthrown invoked⟩
    | threw exception =>
        exact ⟨unbroken_invoked unbroken invoked, record, info, unthrown, invoked⟩
  goesStale holds invoked _ := .inl (unbroken_invoked holds.2.1 invoked)
  tells := by
    rintro exception record more operation ⟨unbroken, -⟩ telling
    exact unbroken.append telling.unbroken
  told := by
    rintro exception record more halt ⟨unbroken, before, info, unthrown, invoked⟩ told
    exact told.justified unbroken unthrown invoked

end Evaluation

/-- When an operation of a run fails, the run is over.  A lost connection is what it ends in, and
so is any other failure, unless the message of an exception was sought that the program itself
had thrown; the run then ends in that exception. -/
theorem failure_ends_run
    {context : Context} {mode : RunMode} {program : Program} {record : Record}
    {operation : Operation}
    (asks : (context.run mode program).Asks record (.operation operation)) (halt : Halt) :
    Unbroken record ∧
      (∀ more asked,
        ¬ (context.run mode program).Asks (record ++ [failure operation halt] ++ more) asked) ∧
      ∃ final after,
        (context.run mode program).Ends (record ++ [failure operation halt])
            (.error final, after) ∧
          Verdict ⟨context.binding, mode.searchLimit⟩ record operation halt final := by
  obtain ⟨questions, stops, returns⟩ := context.run_meets
    (failureRegime_sound ⟨context.binding, mode.searchLimit⟩)
    (Regime.allows_of_uncounted program (fun holds => holds) fun holds _ => .inl holds.2.1)
    ⟨rfl, unbroken_nil, fun _ member => (List.not_mem_nil member).elim⟩
  have broken : ¬ Unbroken (record ++ [failure operation halt]) :=
    fun unbroken => unbroken operation halt (by simp)
  refine ⟨questions record _ asks, ?_⟩
  rcases asks.progress (.error halt) with ⟨⟨result, after⟩, ends⟩ | ⟨next, further⟩
  · refine ⟨ends.not_asks, ?_⟩
    cases result with
    | ok value =>
        rcases returns _ value after ends with ⟨activation, -, unbroken, -⟩
        exact (broken unbroken).elim
    | error final =>
        refine ⟨final, after, ends, ?_⟩
        rcases stops _ final after ends with unbroken | ⟨good, failed, cause, same, -, verdict⟩
        · exact (broken unbroken).elim
        · rcases List.append_inj' same rfl with ⟨rfl, last⟩
          cases last
          exact verdict
  · exact (broken (questions _ next further)).elim

/-- A call without arguments. -/
def callTick : Program :=
  [.invokeStatic "LTimer;" (.ofArity "tick" 0)]

/-- The call throws, and the class of what it threw is known. -/
def thrownAndNamed : Record :=
  [success (.staticMethod "LTimer;" (.ofArity "tick" 0)) ⟨5, 6, "tick", "()V", true⟩,
    success (.invoke 1 none ⟨5, 6, "tick", "()V", true⟩ []) (.threw ⟨3, 76⟩),
    success (.frame 1 0) ⟨7, ⟨1, 2, 3, 4⟩⟩,
    success (.typeSignature (.object ⟨3, 76⟩)) "LOverrun;"]

theorem missing_message_ends_run :
    (Context.run ⟨⟨1, 0, ⟨1, 2, 3, 4⟩, .empty⟩, 7⟩ ⟨false, 5, 2⟩ callTick).Asks
        thrownAndNamed (.operation (.instanceMethod (.object ⟨3, 76⟩) messageSelector)) ∧
      ∃ final after,
        (Context.run ⟨⟨1, 0, ⟨1, 2, 3, 4⟩, .empty⟩, 7⟩ ⟨false, 5, 2⟩ callTick).Ends
          (thrownAndNamed ++
            [failure (.instanceMethod (.object ⟨3, 76⟩) messageSelector)
              (.failed (.noSuchMethod "getMessage"))])
          (.error final, after) ∧
        final = .failed (.remoteException (Signature.typeName "LOverrun;") 3) := by
  have asks : (Context.run ⟨⟨1, 0, ⟨1, 2, 3, 4⟩, .empty⟩, 7⟩ ⟨false, 5, 2⟩ callTick).Asks
      thrownAndNamed (.operation (.instanceMethod (.object ⟨3, 76⟩) messageSelector)) :=
    .later (.later (.later (.later .here)))
  obtain ⟨-, -, final, after, ends, verdict⟩ :=
    failure_ends_run asks (.failed (.noSuchMethod "getMessage"))
  have unthrown : Unthrown [success (.staticMethod "LTimer;" (.ofArity "tick" 0))
      ⟨5, 6, "tick", "()V", true⟩] := unthrown_success rfl
  exact ⟨asks, final, after, ends,
    verdict.muted rfl ⟨3, 76⟩ "LOverrun;" (.intro unthrown .method .lookUp)⟩

end FrameEval
