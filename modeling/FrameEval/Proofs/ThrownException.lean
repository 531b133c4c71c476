import FrameEval.Proofs.Failure

/-!
# What becomes of a thrown exception

After the first throw of a run, and with the frame still there, the exchanges that follow are
those of a description, and the run ends in the exception.  Two failures take its place none the
less: that of the question for its class, and that of the question for the characters of its
message.  All others are muted, unless the connection was lost, or the method that tells the
message has parameters that cannot be split.
-/

namespace FrameEval

open Dialogue Evaluation Wire

namespace Evaluation

/-- The first throw of a run, after which the bound frame is found again. -/
inductive Raised (setting : Setting) (exception : ObjectHandle) (record : Record) : Prop where
  | intro
      {before : Record} {info : FrameInfo}
      (unthrown : Unthrown before)
      (invoked : Invoked setting.binding before (.threw exception) info record)
      (found : info.location.sameMethod setting.binding.location = true)

/-- How a run ends once an exception has been raised, by the exchanges after that. -/
inductive Reported (setting : Setting) (exception : ObjectHandle) (more : Record) : Halt → Prop
    where
  | described {description : String} :
      Reported setting exception more (.failed (.remoteException description exception.id))
  | lost
      {operation : Operation} {halt : Halt} (final : halt.isFinal = true)
      (failed : failure operation halt ∈ more) :
      Reported setting exception more halt
  | unnamed
      {halt : Halt} (failed : more = [failure (.typeSignature (.object exception)) halt]) :
      Reported setting exception more halt
  | unsplit
      {signature : String} {method : MethodRef}
      (unsplit : Signature.parameters? method.signature = none)
      (found : more = [success (.typeSignature (.object exception)) signature,
        success (.instanceMethod (.object exception) messageSelector) method]) :
      Reported setting exception more .aborted
  | unread
      {signature : String} {method : MethodRef} {info : FrameInfo} {text : ObjectHandle}
      {halt : Halt}
      (failed : more = answered setting exception signature method (.returned (.object text)) info
        ++ [failure (.stringValue text) halt]) :
      Reported setting exception more halt

variable {setting : Setting}

theorem Told.reported
    {exception : ObjectHandle} {more : Record} {halt : Halt}
    (told : Told setting exception more halt) :
    Reported setting exception more halt := by
  cases told with
  | unnamed => exact .unnamed rfl
  | passed muted final =>
      cases muted with
      | refused wording =>
          apply Reported.lost final
          exact List.mem_cons_of_mem _ (List.mem_append_right _ (List.mem_singleton_self _))
      | unsplit unsplit => exact .unsplit unsplit rfl
      | arity => cases final
      | stale => cases final
  | muted => exact .described
  | silent => exact .described
  | unread => exact .unread rfl
  | said => exact .described

/-- The exception is seen in the answer to the invocation. -/
theorem Invoked.exception_unique
    {binding : Binding} {before before' later : Record} {exception other : ObjectHandle}
    {info info' : FrameInfo}
    (invoked : Invoked binding before (.threw exception) info later)
    (invoked' : Invoked binding before' (.threw other) info' later) :
    exception = other := by
  cases invoked with
  | method =>
      generalize same : before ++ _ = later at invoked'
      cases invoked' with
      | method =>
          obtain ⟨-, last⟩ := List.append_inj' same rfl
          cases last
          rfl
      | construction =>
          obtain ⟨-, last⟩ := List.append_inj' same rfl
          cases last
  | construction =>
      generalize same : before ++ _ = later at invoked'
      cases invoked' with
      | method =>
          obtain ⟨-, last⟩ := List.append_inj' same rfl
          cases last
      | construction =>
          obtain ⟨-, last⟩ := List.append_inj' same rfl
          cases last
          rfl

theorem unthrown_singleton
    {exchange : Exchange Inquiry.Answer} (spared : ¬ Throws exchange) :
    Unthrown [exchange] := by
  intro other member
  rw [List.mem_singleton.1 member]
  exact spared

namespace Raised

variable {exception other : ObjectHandle} {thrown thrown' more more' : Record}

theorem split
    (raised : Raised setting exception thrown) (more : Record) :
    ∃ before thrower info, Unthrown before ∧ Throws thrower ∧
      info.location.sameMethod setting.binding.location = true ∧
      thrown ++ more = before ++ thrower ::
        success (.frame setting.binding.thread setting.binding.depth) info :: more := by
  obtain ⟨unthrown, invoked, found⟩ := raised
  obtain ⟨thrower, throws, rfl⟩ := invoked.throws
  exact ⟨_, thrower, _, unthrown, throws, found, List.append_assoc _ _ _⟩

theorem not_unthrown
    (raised : Raised setting exception thrown) (more : Record) :
    ¬ Unthrown (thrown ++ more) := by
  intro unthrown
  obtain ⟨before, thrower, info, -, throws, -, same⟩ := raised.split more
  rw [same] at unthrown
  exact unthrown thrower (by simp) throws

/-- If one exchange only can be the throw, the frame is found again right after it. -/
theorem found_next
    {record rest : Record} {exchange : Exchange Inquiry.Answer}
    (raised : Raised setting exception thrown)
    (unthrown : Unthrown record) (quiet : Unthrown rest)
    (same : record ++ exchange :: rest = thrown ++ more) :
    ∃ info, info.location.sameMethod setting.binding.location = true ∧
      rest = success (.frame setting.binding.thread setting.binding.depth) info :: more := by
  obtain ⟨before, thrower, info, unthrown', throws, found, split⟩ := raised.split more
  by_cases throws' : Throws exchange
  · rw [split] at same
    exact ⟨info, found, unthrown.split_unique unthrown' throws' throws same⟩
  · have none : Unthrown (record ++ exchange :: rest) :=
      unthrown.append ((unthrown_singleton throws').append quiet)
    rw [same] at none
    exact (raised.not_unthrown more none).elim

/-- A record raises one exception, at one place. -/
theorem unique
    (raised : Raised setting exception thrown) (raised' : Raised setting other thrown')
    (same : thrown ++ more = thrown' ++ more') :
    exception = other ∧ more = more' := by
  obtain ⟨before, thrower, info, unthrown, throws, -, split⟩ := raised.split more
  obtain ⟨before', thrower', info', unthrown', throws', -, split'⟩ := raised'.split more'
  have whole := same
  rw [split, split'] at whole
  obtain ⟨-, rfl⟩ := List.cons.inj (unthrown.split_unique unthrown' throws throws' whole)
  obtain rfl := List.append_cancel_right same
  obtain ⟨-, invoked, -⟩ := raised
  obtain ⟨-, invoked', -⟩ := raised'
  exact ⟨invoked.exception_unique invoked', rfl⟩

end Raised

/-! ## The regime -/

/-- After an exception has been raised there is only its description. -/
def reportRegime (setting : Setting) : Regime where
  asks record inquiry := ∀ exception thrown more, Raised setting exception thrown →
    record = thrown ++ more →
      ∃ operation, inquiry = .operation operation ∧ Telling setting exception more operation
  stops record halt := ∀ exception thrown more, Raised setting exception thrown →
    record = thrown ++ more → Told setting exception more halt
  holds _ record activation := activation.stack.exception = none ∧ Unthrown record
  thrown exception record := Raised setting exception record

theorem Unthrown.asks
    {record : Record} (unthrown : Unthrown record) (inquiry : Inquiry) :
    (reportRegime setting).asks record inquiry := by
  rintro exception thrown more raised rfl
  exact (raised.not_unthrown more unthrown).elim

theorem Unthrown.stops
    {record : Record} (unthrown : Unthrown record) (halt : Halt) :
    (reportRegime setting).stops record halt := by
  rintro exception thrown more raised rfl
  exact (raised.not_unthrown more unthrown).elim

theorem unthrown_failure
    {operation : Operation} {halt : Halt} :
    Unthrown [failure operation halt] := by
  apply unthrown_singleton
  intro throws
  cases throws

/-- Right after an invocation the frame is to be fetched, whatever the outcome. -/
theorem Unthrown.admits_frame
    {record : Record} (unthrown : Unthrown record) (exchange : Exchange Inquiry.Answer) :
    (reportRegime setting).Admits (record ++ [exchange])
      (.frame setting.binding.thread setting.binding.depth) fun _ _ => True where
  asks := by
    intro exception thrown more raised same
    obtain ⟨info, -, next⟩ := raised.found_next unthrown (List.forall_mem_nil _) same
    cases next
  returns _ := trivial
  stops := by
    intro halt exception thrown more raised same
    rw [List.append_assoc] at same
    obtain ⟨info, -, next⟩ := raised.found_next unthrown unthrown_failure same
    cases next

theorem reportRegime_sound
    (setting : Setting) : (reportRegime setting).Sound setting where
  calm holds := holds.1
  restack _ holds calm _ := ⟨calm, holds.2⟩
  fails holds _ := holds.2.stops _
  underflows holds _ := holds.2.stops _
  exhausts holds := holds.2.stops _
  aborts holds := holds.2.stops _
  watches := by
    rintro height record activation ⟨calm, unthrown⟩
    constructor
    · exact unthrown.asks _
    · intro answer
      have spared : ¬ Throws ⟨.cancelled, answer⟩ := by
        intro throws
        cases throws
      exact ⟨calm, unthrown.append (unthrown_singleton spared)⟩
  performs := by
    rintro height record activation operation ⟨calm, unthrown⟩ - still
    exact
      { asks := unthrown.asks _
        returns := fun answer => ⟨calm, unthrown.append (unthrown_success still)⟩
        stops := fun halt => (unthrown.append unthrown_failure).stops halt }
  runs := by
    rintro height record activation operation ⟨-, unthrown⟩ - -
    exact
      { asks := unthrown.asks _
        returns := fun answer => unthrown.admits_frame _
        stops := fun halt => (unthrown.append unthrown_failure).stops halt }
  resumes := by
    rintro height record activation outcome info later ⟨calm, unthrown⟩ invoked found
    cases outcome with
    | returned value => exact ⟨calm, unthrown_invoked unthrown invoked⟩
    | threw exception => exact .intro unthrown invoked found
  goesStale := by
    rintro height record activation outcome info later detail ⟨-, unthrown⟩ invoked gone
      exception thrown more raised same
    obtain ⟨operation, answer, rfl⟩ := invoked.split
    obtain ⟨info', found, next⟩ := raised.found_next unthrown (unthrown_success rfl) same
    cases next
    rw [gone] at found
    cases found
  tells := by
    rintro exception record more operation raised telling other thrown' more' raised' same
    obtain ⟨rfl, rfl⟩ := raised.unique raised' same
    exact ⟨operation, rfl, telling⟩
  told := by
    rintro exception record more halt raised told other thrown' more' raised' same
    obtain ⟨rfl, rfl⟩ := raised.unique raised' same
    exact told

end Evaluation

/-- Once an exception has been raised, no instruction is completed any more, the questions that
are still put are those of its description, and the run ends in the exception, unless an
operation fails for good, or the class of the exception or the characters of its message are
refused, or a method was found for the message whose parameters cannot be split. -/
theorem raised_exception_is_reported
    {context : Context} {mode : RunMode} {program : Program} {exception : ObjectHandle}
    {thrown : Record}
    (raised : Raised ⟨context.binding, mode.searchLimit⟩ exception thrown) (more : Record) :
    (∀ counter activation,
      ¬ Passes ⟨context.binding, mode.searchLimit⟩ program mode.watched 0
        ⟨context.frameId, .empty⟩ (thrown ++ more) counter activation) ∧
      (∀ asked, (context.run mode program).Asks (thrown ++ more) asked →
        ∃ operation, asked = .operation operation ∧
          Telling ⟨context.binding, mode.searchLimit⟩ exception more operation) ∧
      ∀ result after, (context.run mode program).Ends (thrown ++ more) (result, after) →
        ∃ halt, result = .error halt ∧
          Reported ⟨context.binding, mode.searchLimit⟩ exception more halt := by
  have sound := reportRegime_sound ⟨context.binding, mode.searchLimit⟩
  have allows : (reportRegime ⟨context.binding, mode.searchLimit⟩).Allows program fun _ => 0 :=
    Regime.allows_of_uncounted program (fun holds => holds) fun holds _ => holds.2.stops _
  have start : (reportRegime ⟨context.binding, mode.searchLimit⟩).holds 0 []
      ⟨context.frameId, .empty⟩ := ⟨rfl, List.forall_mem_nil _⟩
  obtain ⟨questions, stops, returns⟩ := context.run_meets sound allows start
  refine ⟨?passes, ?asks, ?ends⟩
  case passes =>
    intro counter activation passes
    obtain ⟨-, -, unthrown⟩ := sound.passes allows passes [] (Nat.zero_le _) start
    exact raised.not_unthrown more unthrown
  case asks =>
    intro asked asks
    exact questions _ asked asks exception thrown more raised rfl
  case ends =>
    intro result after ends
    cases result with
    | ok value =>
        obtain ⟨activation, -, unthrown⟩ := returns _ value after ends
        exact (raised.not_unthrown more unthrown).elim
    | error halt =>
        have told := stops _ halt after ends exception thrown more raised rfl
        exact ⟨halt, rfl, told.reported⟩

/-- A call without arguments throws, and the frame is still there. -/
def overrun : Record :=
  [success (.staticMethod "LTimer;" (.ofArity "tick" 0)) ⟨5, 6, "tick", "()V", true⟩,
    success (.invoke 1 none ⟨5, 6, "tick", "()V", true⟩ []) (.threw ⟨3, 76⟩),
    success (.frame 1 0) ⟨7, ⟨1, 2, 3, 4⟩⟩]

/-- The class of the exception is named, and its message is an object. -/
def overrunMessage : Record :=
  [success (.typeSignature (.object ⟨3, 76⟩)) "LOverrun;",
    success (.instanceMethod (.object ⟨3, 76⟩) messageSelector)
      ⟨8, 9, "getMessage", "()Ljava/lang/String;", false⟩,
    success (.invoke 1 (some (.object ⟨3, 76⟩))
      ⟨8, 9, "getMessage", "()Ljava/lang/String;", false⟩ []) (.returned (.object ⟨4, 115⟩)),
    success (.frame 1 0) ⟨7, ⟨1, 2, 3, 4⟩⟩]

theorem overrun_is_reported :
    Raised ⟨⟨1, 0, ⟨1, 2, 3, 4⟩, .empty⟩, 2⟩ ⟨3, 76⟩ overrun ∧
      ∃ halt after,
        (Context.run ⟨⟨1, 0, ⟨1, 2, 3, 4⟩, .empty⟩, 7⟩ ⟨false, 5, 2⟩ callTick).Ends
          (overrun ++ (overrunMessage ++ [success (.stringValue ⟨4, 115⟩) "late"]))
          (.error halt, after) ∧
        Reported ⟨⟨1, 0, ⟨1, 2, 3, 4⟩, .empty⟩, 2⟩ ⟨3, 76⟩
          (overrunMessage ++ [success (.stringValue ⟨4, 115⟩) "late"]) halt := by
  have raised : Raised ⟨⟨1, 0, ⟨1, 2, 3, 4⟩, .empty⟩, 2⟩ ⟨3, 76⟩ overrun :=
    .intro (unthrown_success rfl) .method rfl
  have ends : (Context.run ⟨⟨1, 0, ⟨1, 2, 3, 4⟩, .empty⟩, 7⟩ ⟨false, 5, 2⟩ callTick).Ends
      (overrun ++ (overrunMessage ++ [success (.stringValue ⟨4, 115⟩) "late"]))
      (.error (.failed (.remoteException "Overrun: late" 3)),
        ⟨⟨1, 0, ⟨1, 2, 3, 4⟩, .empty⟩, 7⟩) :=
    .ask (.ask (.ask (.ask (.ask (.ask (.ask (.ask .done)))))))
  have reports := (@raised_exception_is_reported ⟨⟨1, 0, ⟨1, 2, 3, 4⟩, .empty⟩, 7⟩ ⟨false, 5, 2⟩
    callTick _ _ raised (overrunMessage ++ [success (.stringValue ⟨4, 115⟩) "late"])).2.2
  obtain ⟨halt, same, reported⟩ := reports _ _ ends
  rw [same] at ends
  exact ⟨raised, halt, _, ends, reported⟩

/-- If the characters of the message are refused, the run ends in the refusal. -/
theorem unread_message_hides_exception :
    ∃ thrown more halt after,
      Raised ⟨⟨1, 0, ⟨1, 2, 3, 4⟩, .empty⟩, 2⟩ ⟨3, 76⟩ thrown ∧
        (Context.run ⟨⟨1, 0, ⟨1, 2, 3, 4⟩, .empty⟩, 7⟩ ⟨false, 5, 2⟩ callTick).Ends
          (thrown ++ more) (.error halt, after) ∧
        (∀ description, halt ≠ .failed (.remoteException description 3)) ∧
        halt.isFinal = false := by
  have raised : Raised ⟨⟨1, 0, ⟨1, 2, 3, 4⟩, .empty⟩, 2⟩ ⟨3, 76⟩ overrun :=
    .intro (unthrown_success rfl) .method rfl
  have ends : (Context.run ⟨⟨1, 0, ⟨1, 2, 3, 4⟩, .empty⟩, 7⟩ ⟨false, 5, 2⟩ callTick).Ends
      (overrun ++ (overrunMessage ++ [failure (.stringValue ⟨4, 115⟩) (.failed .staleHandle)]))
      (.error (.failed .staleHandle), ⟨⟨1, 0, ⟨1, 2, 3, 4⟩, .empty⟩, 7⟩) :=
    .ask (.ask (.ask (.ask (.ask (.ask (.ask (.ask .done)))))))
  have hides : ∀ description,
      Halt.failed .staleHandle ≠ .failed (.remoteException description 3) := by
    intro description same
    cases same
  exact ⟨overrun, overrunMessage ++ [failure (.stringValue ⟨4, 115⟩) (.failed .staleHandle)],
    .failed .staleHandle, ⟨⟨1, 0, ⟨1, 2, 3, 4⟩, .empty⟩, 7⟩, raised, ends, hides, rfl⟩

end FrameEval
