import FrameEval.Proofs.Evaluation.Description
import FrameEval.Proofs.Evaluation.Misstep

/-!
# Regimes

A regime is a rule with an invariant, indexed by the number of operands on the stack, and with a
condition that takes its place once an invocation has thrown.  A regime is steady if what the
program's own work does keeps the invariant: the stack, the proper operations, the two
operations that run code and the fetching of the frame after them, and the description of an
exception.  It is sound if the check for cancellation does so too.  What an instruction does is
then proved once, for every steady regime, and what a whole run does for every sound one; a
property of runs is the choice of a regime.

This module has the soundness conditions and what follows for everything up to an invocation.
-/

namespace FrameEval.Evaluation

open Dialogue Wire

/-- A rule with an invariant. -/
structure Regime extends Rule where
  /-- What holds between operations with so many operands on the stack. -/
  holds : Nat → Record → Activation → Prop
  /-- What holds from the moment that an invocation has thrown an exception. -/
  thrown : ObjectHandle → Record → Prop

/-- What holds after an invocation. -/
def Regime.settles (regime : Regime) (height : Nat) :
    InvokeOutcome → Record → Activation → Prop
  | .returned _, record, activation => regime.holds height record activation
  | .threw exception, record, _ => regime.thrown exception record

/-- The program's own work keeps the invariant of a regime. -/
structure Regime.Steady (setting : Setting) (regime : Regime) : Prop where
  calm : ∀ {height record activation}, regime.holds height record activation →
    activation.stack.exception = none
  restack : ∀ {height after record activation} (stack : OperandStack),
    regime.holds height record activation → stack.exception = none →
      stack.size + height = activation.stack.size + after →
        regime.holds after record { activation with stack := stack }
  fails : ∀ {height record activation error}, regime.holds height record activation →
    ¬ error.IsMisstep → regime.stops record (.failed error)
  underflows : ∀ {height record activation}, regime.holds height record activation →
    activation.stack.size < height → regime.stops record (.failed .stackUnderflow)
  exhausts : ∀ {height record activation}, regime.holds height record activation →
    regime.stops record .exhausted
  aborts : ∀ {height record activation}, regime.holds height record activation →
    regime.stops record .aborted
  performs : ∀ {height record activation operation}, regime.holds height record activation →
    Proper setting record activation operation → operation.runsCode = false →
      regime.Admits record operation fun later _ => regime.holds height later activation
  runs : ∀ {height record activation operation}, regime.holds height record activation →
    Proper setting record activation operation → operation.runsCode = true →
      regime.Admits record operation fun later _ =>
        regime.Admits later (.frame setting.binding.thread setting.binding.depth)
          fun _ _ => True
  resumes : ∀ {height record activation outcome info later},
    regime.holds height record activation →
      Invoked setting.binding record outcome info later →
        info.location.sameMethod setting.binding.location = true →
          regime.settles height outcome later { activation with frameId := info.id }
  goesStale : ∀ {height record activation outcome info later detail},
    regime.holds height record activation →
      Invoked setting.binding record outcome info later →
        info.location.sameMethod setting.binding.location = false →
          regime.stops later (.failed (.staleFrame detail))
  tells : ∀ {exception record more operation}, regime.thrown exception record →
    Telling setting exception more operation →
      regime.asks (record ++ more) (.operation operation)
  told : ∀ {exception record more halt}, regime.thrown exception record →
    Told setting exception more halt → regime.stops (record ++ more) halt

/-- The check for cancellation before each instruction keeps it too. -/
structure Regime.Sound (setting : Setting) (regime : Regime) : Prop
    extends Regime.Steady setting regime where
  watches : ∀ {height record activation}, regime.holds height record activation →
    regime.asks record .cancelled ∧
      ∀ answer, regime.holds height (record ++ [⟨.cancelled, answer⟩]) activation

/-- An evaluation keeps the invariant while the number of operands goes from one to another. -/
def Regime.Moves {α : Type} (regime : Regime) (before : Nat) (evaluation : Evaluation α)
    (after : Nat) : Prop :=
  Triple regime.toRule (regime.holds before) evaluation
    fun record _ activation => regime.holds after record activation

namespace Regime.Steady

variable {α : Type} {setting : Setting} {regime : Regime}

/-! ## Single operations -/

theorem perform
    (steady : regime.Steady setting) {operation : Operation}
    (plain : operation.isPlain = true) (height : Nat) :
    regime.Moves height (Evaluation.perform operation) height := by
  refine Triple.perform fun record activation holds => ?_
  rcases proper_of_isPlain operation plain with ⟨proper, still⟩
  exact steady.performs holds proper still

/-- What a lookup answers is found on the record. -/
theorem perform_found
    (steady : regime.Steady setting) {operation : Operation}
    (plain : operation.isPlain = true) (height : Nat) :
    Triple regime.toRule (regime.holds height) (Evaluation.perform operation)
      fun record answer activation =>
        regime.holds height record activation ∧ success operation answer ∈ record := by
  refine Triple.perform fun record activation holds => ?_
  rcases proper_of_isPlain operation plain with ⟨proper, still⟩
  have admitted := steady.performs holds proper still
  exact ⟨admitted.asks, fun answer => ⟨admitted.returns answer, by simp⟩, admitted.stops⟩

theorem fail
    (steady : regime.Steady setting) {error : EvalError} (honest : ¬ error.IsMisstep)
    {height : Nat} {post : Record → α → Activation → Prop} :
    Triple regime.toRule (regime.holds height) (Evaluation.fail error) post :=
  .fail fun _ _ holds => steady.fails holds honest

theorem ofExcept
    (steady : regime.Steady setting) {result : Except EvalError α}
    (blameless : Blameless result) (height : Nat) :
    regime.Moves height (Evaluation.ofExcept result) height :=
  .ofExcept (fun _ _ _ _ holds => holds)
    fun _ failed _ _ holds => steady.fails holds (blameless.not_isMisstep failed)

/-! ## The hierarchy of types -/

theorem isAssignable
    (steady : regime.Steady setting) (height limit : Nat) (source target : String) :
    regime.Moves height (Evaluation.isAssignable limit source target) height :=
  Triple.isAssignable (fun _ => steady.perform rfl height)
    (fun _ _ holds => steady.exhausts holds) limit source target

/-- A value is taken for an instance of a type only once the target has been asked. -/
theorem instanceOf
    (steady : regime.Steady setting) (height : Nat) (value : RemoteValue) (target : String) :
    Triple regime.toRule (regime.holds height) (Evaluation.instanceOf setting value target)
      fun record answer activation => regime.holds height record activation ∧
        (answer = true → Judged setting.searchLimit record value target) := by
  have asked : Triple regime.toRule (regime.holds height)
      (Evaluation.perform (.typeSignature value)) fun record runtime activation =>
        regime.holds height record activation ∧
          ∃ before, record = before ++ [success (.typeSignature value) runtime] := by
    refine Triple.perform fun record activation holds => ?_
    rcases proper_of_isPlain (.typeSignature value) rfl with ⟨proper, still⟩
    have admitted := steady.performs holds proper still
    exact ⟨admitted.asks, fun answer => ⟨admitted.returns answer, record, rfl⟩,
      admitted.stops⟩
  refine asked.bind fun runtime => ?_
  have walked : Triple regime.toRule
      (fun record activation => regime.holds height record activation ∧
        ∃ before, record = before ++ [success (.typeSignature value) runtime])
      (Evaluation.isAssignable setting.searchLimit runtime target)
      (fun record _ activation => regime.holds height record activation) :=
    Triple.strengthenPre (steady.isAssignable height _ runtime target) fun _ _ known => known.1
  refine walked.course.weaken (fun _ _ known => known) ?_
  rintro record answer activation
    ⟨holds, earlier, start, walk, ⟨_, before, rfl⟩, rfl, ends⟩
  refine ⟨holds, ?_⟩
  rintro rfl
  exact ⟨before, runtime, walk, [], by simp, start, activation, ends⟩

/-! ## Values for a declared type -/

theorem assign
    (steady : regime.Steady setting) (height : Nat) (value : RemoteValue) (declared : String) :
    Triple regime.toRule (regime.holds height) (Evaluation.assign setting value declared)
      fun record stored activation => regime.holds height record activation ∧
        Fits setting.searchLimit record stored declared := by
  have mismatch : ¬ (notAssignable value declared).IsMisstep := id
  unfold Evaluation.assign
  cases sort : PrimitiveKind.ofSignature? declared with
  | some kind =>
      simp only [fits_primitive sort]
      cases value with
      | primitive given =>
          dsimp only
          split
          · refine .ofExcept (fun stored converted record activation holds => ?_)
              fun error failed record activation holds => ?_
            · cases cast : given.cast kind with
              | error error => simp [cast, Except.map] at converted
              | ok result =>
                  simp only [cast, Except.map, Except.ok.injEq] at converted
                  exact ⟨holds, result, converted.symm, Primitive.kind_cast cast⟩
            · have blameless :=
                Semantic.blameless ((given.semantic_cast kind).map RemoteValue.primitive)
              exact steady.fails holds (blameless.not_isMisstep failed)
          · exact steady.fail mismatch
      | object | array | null | void => exact steady.fail mismatch
  | none =>
      simp only [fits_reference sort]
      cases value with
      | null => exact .pure fun _ _ holds => ⟨holds, .inl rfl⟩
      | primitive | void => exact steady.fail mismatch
      | object | array =>
          refine (steady.instanceOf height _ declared).bind fun answer => ?_
          cases answer with
          | true => exact .pure fun _ _ known => ⟨known.1, .inr ⟨rfl, known.2 rfl⟩⟩
          | false => exact .fail fun _ _ known => steady.fails known.1 mismatch

/-- Arguments that are as many as the parameters are each assigned to its own. -/
theorem assignAll
    (steady : regime.Steady setting) (height : Nat) (arguments : List RemoteValue)
    (parameters : List String) (same : parameters.length = arguments.length) :
    Triple regime.toRule (regime.holds height)
      (Evaluation.assignAll setting arguments parameters)
      fun record stored activation => regime.holds height record activation ∧
        List.Forall₂ (Fits setting.searchLimit record) stored parameters := by
  induction arguments generalizing parameters with
  | nil =>
      obtain rfl := List.eq_nil_of_length_eq_zero same
      exact .pure fun _ _ holds => ⟨holds, .nil⟩
  | cons argument arguments ih =>
      cases parameters with
      | nil => cases same
      | cons parameter parameters =>
          refine (steady.assign height argument parameter).bind fun first => ?_
          have later := (ih parameters (by simpa using same)).frame
            (lasting_fits setting.searchLimit first parameter)
          refine later.bind fun rest => ?_
          exact .pure fun _ _ known => ⟨known.1.1, .cons known.2 known.1.2⟩

theorem convertArguments
    (steady : regime.Steady setting) (height : Nat) (method : MethodRef)
    (arguments : List RemoteValue) :
    Triple regime.toRule (regime.holds height)
      (Evaluation.convertArguments setting method arguments)
      fun record stored activation => regime.holds height record activation ∧
        ∃ declared, Signature.parameters? method.signature = some declared ∧
          List.Forall₂ (Fits setting.searchLimit record) stored declared := by
  refine Triple.via (fun record declared activation =>
      regime.holds height record activation ∧
        Signature.parameters? method.signature = some declared)
    (.orAbort (fun declared splits _ _ holds => ⟨holds, splits⟩)
      fun _ _ _ holds => steady.aborts holds) fun declared => ?_
  refine Triple.given fun splits => ?_
  dsimp only
  split
  · exact steady.fail id
  · next same =>
      refine (steady.assignAll height arguments declared (not_not.1 same)).weaken
        (fun _ _ holds => holds) ?_
      exact fun record stored activation known => ⟨known.1, declared, splits, known.2⟩

/-! ## The bound frame -/

theorem currentReceiver
    (steady : regime.Steady setting) (height : Nat) :
    regime.Moves height (Evaluation.currentReceiver setting) height := by
  refine Triple.reading fun current => ?_
  refine .perform ?_
  rintro record activation ⟨holds, rfl⟩
  exact steady.performs holds
    ⟨conforms_of_nil rfl rfl, trivial, by simp [Operation.frameAccess?], rfl⟩ rfl

theorem slotOf
    (steady : regime.Steady setting) (height : Nat) (name : String) :
    Triple regime.toRule (regime.holds height) (Evaluation.slotOf setting name)
      fun record slot activation => regime.holds height record activation ∧
        setting.binding.symbols.find? name = some slot := by
  rw [Evaluation.slotOf]
  split
  · next slot found => exact .pure fun _ _ holds => ⟨holds, found⟩
  · exact steady.fail id

theorem localVariable
    (steady : regime.Steady setting) (height : Nat) (name : String) :
    regime.Moves height (Evaluation.localVariable setting name) height := by
  refine (steady.slotOf height name).bind fun slot => ?_
  refine Triple.given fun found => ?_
  refine Triple.reading fun current => ?_
  refine Triple.via (fun record _ activation =>
      regime.holds height record activation) (.perform ?_) fun values => ?_
  · rintro record activation ⟨holds, rfl⟩
    exact steady.performs holds
      ⟨conforms_of_nil rfl rfl, trivial, by simp [Operation.frameAccess?], rfl⟩ rfl
  · split
    · exact .pure fun _ _ holds => holds
    · exact steady.fail id

theorem setLocalVariable
    (steady : regime.Steady setting) (height : Nat) (name : String) (value : RemoteValue) :
    regime.Moves height (Evaluation.setLocalVariable setting name value) height := by
  refine (steady.slotOf height name).bind fun slot => ?_
  refine Triple.given fun found => ?_
  refine (steady.assign height value slot.signature).bind fun stored => ?_
  refine Triple.reading fun current => ?_
  refine .perform ?_
  rintro record activation ⟨⟨holds, fits⟩, rfl⟩
  exact steady.performs holds
    ⟨⟨_, rfl, .cons fits .nil⟩, ⟨name, found⟩, by simp [Operation.frameAccess?], rfl⟩ rfl

/-! ## Invocations -/

/-- The target runs code, and the frame is fetched again. -/
theorem run_code
    (steady : regime.Steady setting) (height : Nat) (operation : Operation)
    (runs : operation.runsCode = true) (outcome : operation.Answer → InvokeOutcome)
    (invoked : ∀ before answer info,
      Invoked setting.binding before (outcome answer) info
        (before ++ [success operation answer,
          success (.frame setting.binding.thread setting.binding.depth) info])) :
    Triple regime.toRule
      (fun record activation => regime.holds height record activation ∧
        Proper setting record activation operation)
      (do
        let answer ← Evaluation.perform operation
        revalidate setting
        return answer)
      (fun record answer activation =>
        regime.settles height (outcome answer) record activation) := by
  refine Triple.via (fun record answer activation =>
      ∃ before, regime.holds height before activation ∧
        record = before ++ [success operation answer] ∧
        regime.Admits record (.frame setting.binding.thread setting.binding.depth)
          fun _ _ => True)
    (.perform ?_) fun answer => ?_
  · rintro record activation ⟨holds, proper⟩
    have admitted := steady.runs holds proper runs
    exact ⟨admitted.asks, fun answer => ⟨record, holds, rfl, admitted.returns answer⟩,
      admitted.stops⟩
  refine Triple.via (fun record _ activation =>
      regime.settles height (outcome answer) record activation)
    (revalidate_triple setting ?_) fun _ => .pure fun _ _ settled => settled
  rintro record activation ⟨before, holds, rfl, admitted⟩
  refine ⟨admitted.asks, fun info => ?_, admitted.stops⟩
  have done := invoked before answer info
  rw [List.append_assoc]
  exact ⟨fun same => steady.resumes holds done same,
    fun other detail => steady.goesStale holds done other⟩

theorem invokeFound
    (steady : regime.Steady setting) (height : Nat) (receiver : Option RemoteValue)
    (method : MethodRef) (arguments : List RemoteValue) {found : Record → Prop}
    (lasting : Lasting found)
    (resolved : ∀ record stored, found record →
      Resolved setting record (.invoke setting.binding.thread receiver method stored)) :
    Triple regime.toRule
      (fun record activation => regime.holds height record activation ∧ found record)
      (Evaluation.invokeFound setting receiver method arguments)
      (fun record outcome activation =>
        regime.settles height outcome record activation) := by
  refine ((steady.convertArguments height method arguments).frame lasting).bind
    fun stored => ?_
  refine (steady.run_code height (.invoke _ receiver method stored) rfl id
    fun before answer info => .method).strengthenPre ?_
  rintro record activation ⟨⟨holds, fits⟩, known⟩
  exact ⟨holds, fits, resolved record stored known, by simp [Operation.frameAccess?], rfl⟩

theorem invoke
    (steady : regime.Steady setting) (height : Nat) (receiver : RemoteValue)
    (selector : MethodSelector) (arguments : List RemoteValue) :
    Triple regime.toRule (regime.holds height)
      (Evaluation.invoke setting receiver selector arguments)
      (fun record outcome activation =>
        regime.settles height outcome record activation) := by
  cases receiver with
  | null | primitive | void => exact steady.fail id
  | object | array =>
      refine (steady.perform_found rfl height).bind fun method => ?_
      exact steady.invokeFound height _ method arguments (lasting_mem _)
        fun record stored member => ⟨selector, member⟩

theorem invokeStatic
    (steady : regime.Steady setting) (height : Nat) (className : String)
    (selector : MethodSelector) (arguments : List RemoteValue) :
    Triple regime.toRule (regime.holds height)
      (Evaluation.invokeStatic setting className selector arguments)
      (fun record outcome activation =>
        regime.settles height outcome record activation) := by
  refine (steady.perform_found rfl height).bind fun method => ?_
  exact steady.invokeFound height none method arguments (lasting_mem _)
    fun record stored member => ⟨className, selector, member⟩

theorem construct
    (steady : regime.Steady setting) (height : Nat) (className : String)
    (selector : MethodSelector) (arguments : List RemoteValue) :
    Triple regime.toRule (regime.holds height)
      (Evaluation.construct setting className selector arguments)
      (fun record outcome activation =>
        regime.settles height outcome record activation) := by
  refine (steady.perform_found rfl height).bind fun constructor => ?_
  refine ((steady.convertArguments height constructor arguments).frame
    (lasting_mem _)).bind fun stored => ?_
  refine (steady.run_code height (.newInstance _ constructor stored) rfl id
    fun before answer info => .construction).strengthenPre ?_
  rintro record activation ⟨⟨holds, fits⟩, member⟩
  exact ⟨holds, fits, ⟨className, selector, member⟩,
    by simp [Operation.frameAccess?], rfl⟩

end Regime.Steady

end FrameEval.Evaluation
