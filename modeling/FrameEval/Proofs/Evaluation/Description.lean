import FrameEval.Evaluation.Run
import FrameEval.Proofs.Evaluation.Conduct

/-!
# How a thrown exception is described

Once an invocation has thrown, the run asks for the class of the exception and for its detail
message, and ends.  `Telling` lists the questions that this may put, each with the exchanges
before it, and `Told` the records after which it is over, each with the halt that it ends in;
`raiseThrown_triple` says that there are no others.  A failure while the detail message is
looked up or computed is muted: the description then is the name of the class.
-/

namespace FrameEval

open Wire

/-- Whether a halt ends even the search for a detail message. -/
def Halt.isFinal : Halt → Bool
  | failed error => error.isConnectionLoss
  | exhausted => true
  | aborted => true

namespace Evaluation

variable (setting : Setting) (exception : ObjectHandle)

/-- The questions for the detail message, each after the exchanges that lead to it. -/
inductive Wording : Record → Operation → Prop where
  | lookUp : Wording [] (.instanceMethod (.object exception) messageSelector)
  | call
      {method : MethodRef} (nullary : Signature.parameters? method.signature = some []) :
      Wording [success (.instanceMethod (.object exception) messageSelector) method]
        (.invoke setting.binding.thread (some (.object exception)) method [])
  | refetch
      {method : MethodRef} {outcome : InvokeOutcome}
      (nullary : Signature.parameters? method.signature = some []) :
      Wording
        [success (.instanceMethod (.object exception) messageSelector) method,
          success (.invoke setting.binding.thread (some (.object exception)) method []) outcome]
        (.frame setting.binding.thread setting.binding.depth)

/-- The ways in which there is no detail message. -/
inductive Muted : Record → Halt → Prop where
  | refused
      {record : Record} {operation : Operation} {halt : Halt}
      (wording : Wording setting exception record operation) :
      Muted (record ++ [failure operation halt]) halt
  | unsplit
      {method : MethodRef} (unsplit : Signature.parameters? method.signature = none) :
      Muted [success (.instanceMethod (.object exception) messageSelector) method] .aborted
  | arity
      {method : MethodRef} {detail : String} :
      Muted [success (.instanceMethod (.object exception) messageSelector) method]
        (.failed (.noSuchMethod detail))
  | stale
      {method : MethodRef} {outcome : InvokeOutcome} {info : FrameInfo} {detail : String} :
      Muted
        [success (.instanceMethod (.object exception) messageSelector) method,
          success (.invoke setting.binding.thread (some (.object exception)) method []) outcome,
          success (.frame setting.binding.thread setting.binding.depth) info]
        (.failed (.staleFrame detail))

/-- The exchanges after which the detail message has been computed. -/
def answered (signature : String) (method : MethodRef) (outcome : InvokeOutcome)
    (info : FrameInfo) : Record :=
  [success (.typeSignature (.object exception)) signature,
    success (.instanceMethod (.object exception) messageSelector) method,
    success (.invoke setting.binding.thread (some (.object exception)) method []) outcome,
    success (.frame setting.binding.thread setting.binding.depth) info]

/-- The questions that a description puts, each after the exchanges that lead to it. -/
inductive Telling : Record → Operation → Prop where
  | name : Telling [] (.typeSignature (.object exception))
  | wording
      {signature : String} {record : Record} {operation : Operation}
      (wording : Wording setting exception record operation) :
      Telling (success (.typeSignature (.object exception)) signature :: record) operation
  | text
      {signature : String} {method : MethodRef} {info : FrameInfo} {text : ObjectHandle} :
      Telling (answered setting exception signature method (.returned (.object text)) info)
        (.stringValue text)

/-- The records of a whole description, each with the halt in which it ends. -/
inductive Told : Record → Halt → Prop where
  | unnamed
      {halt : Halt} : Told [failure (.typeSignature (.object exception)) halt] halt
  | passed
      {signature : String} {record : Record} {halt : Halt}
      (muted : Muted setting exception record halt) (final : halt.isFinal = true) :
      Told (success (.typeSignature (.object exception)) signature :: record) halt
  | muted
      {signature : String} {record : Record} {halt : Halt}
      (muted : Muted setting exception record halt) (passing : halt.isFinal = false) :
      Told (success (.typeSignature (.object exception)) signature :: record)
        (.failed (.remoteException (Signature.typeName signature) exception.id))
  | silent
      {signature : String} {method : MethodRef} {outcome : InvokeOutcome} {info : FrameInfo} :
      Told (answered setting exception signature method outcome info)
        (.failed (.remoteException (Signature.typeName signature) exception.id))
  | unread
      {signature : String} {method : MethodRef} {info : FrameInfo} {text : ObjectHandle}
      {halt : Halt} :
      Told (answered setting exception signature method (.returned (.object text)) info ++
        [failure (.stringValue text) halt]) halt
  | said
      {signature : String} {method : MethodRef} {info : FrameInfo} {text : ObjectHandle}
      {message : String} :
      Told (answered setting exception signature method (.returned (.object text)) info ++
        [success (.stringValue text) message])
        (.failed (.remoteException s!"{Signature.typeName signature}: {message}" exception.id))

/-- Fetching the frame again returns if its method is still the bound one. -/
theorem revalidate_triple
    {rule : Rule} {pre : Record → Activation → Prop} {post : Record → Unit → Activation → Prop}
    (admits : ∀ record activation, pre record activation →
      rule.Admits record (.frame setting.binding.thread setting.binding.depth)
        fun later info =>
          (info.location.sameMethod setting.binding.location = true →
            post later () { activation with frameId := info.id }) ∧
          (info.location.sameMethod setting.binding.location = false →
            ∀ detail, rule.stops later (.failed (.staleFrame detail)))) :
    Triple rule pre (revalidate setting) post := by
  refine Triple.bind (.perform admits) fun info => ?_
  by_cases same : info.location.sameMethod setting.binding.location = true
  · rw [if_pos same]
    exact .modify fun record activation known => known.1 same
  · rw [if_neg same]
    exact .fail fun record activation known => known.2 (Bool.eq_false_iff.2 same) _

/-- A method without arguments fits only a signature without parameters. -/
theorem convertArguments_nil
    (method : MethodRef) :
    ∃ detail, convertArguments setting method [] =
      match Signature.parameters? method.signature with
      | none => throw .aborted
      | some [] => return []
      | some (_ :: _) => fail (.noSuchMethod detail) := by
  rw [convertArguments]
  rcases Signature.parameters? method.signature with _ | _ | ⟨first, rest⟩
  · exact ⟨"", rfl⟩
  · exact ⟨"", rfl⟩
  · exact ⟨_, rfl⟩

/-- Under this rule only the questions of a description may be put. -/
abbrev tellingRule (stops : Record → Halt → Prop) : Rule :=
  ⟨fun record inquiry => ∃ operation, inquiry = .operation operation ∧
    Telling setting exception record operation, stops⟩

/-- What is over while the detail message is sought: the name is known, the rest is muted. -/
def Wordless (signature : String) (record : Record) (halt : Halt) : Prop :=
  ∃ rest, record = success (.typeSignature (.object exception)) signature :: rest ∧
    Muted setting exception rest halt

theorem invoke_message_triple
    (signature : String) :
    Triple (tellingRule setting exception (Wordless setting exception signature))
      (fun record _ => record = [success (.typeSignature (.object exception)) signature])
      (invoke setting (.object exception) messageSelector [])
      (fun record outcome _ => ∃ method info,
        record = answered setting exception signature method outcome info) := by
  refine Triple.via (fun record method _ =>
      record = [success (.typeSignature (.object exception)) signature,
        success (.instanceMethod (.object exception) messageSelector) method])
    (.perform ?_) fun method => ?_
  · rintro record activation rfl
    exact ⟨⟨_, rfl, .wording .lookUp⟩, fun answer => rfl,
      fun halt => ⟨_, rfl, .refused .lookUp⟩⟩
  rcases convertArguments_nil setting method with ⟨detail, converted⟩
  rw [invokeFound]
  rw [converted]
  rcases nullary : Signature.parameters? method.signature with _ | _ | ⟨first, others⟩
  case some.nil =>
    dsimp only
    rw [pure_bind]
    refine Triple.via (fun record outcome _ =>
        record = [success (.typeSignature (.object exception)) signature,
          success (.instanceMethod (.object exception) messageSelector) method,
          success (.invoke setting.binding.thread (some (.object exception)) method []) outcome])
      (.perform ?_) fun outcome => ?_
    · rintro record activation rfl
      exact ⟨⟨_, rfl, .wording (.call nullary)⟩, fun answer => rfl,
        fun halt => ⟨_, rfl, .refused (.call nullary)⟩⟩
    refine Triple.via (fun record _ _ => ∃ info,
        record = answered setting exception signature method outcome info)
      (revalidate_triple setting ?_) fun _ => ?_
    · rintro record activation rfl
      exact ⟨⟨_, rfl, .wording (.refetch nullary)⟩,
        fun info => ⟨fun _ => ⟨info, rfl⟩, fun _ detail => ⟨_, rfl, .stale⟩⟩,
        fun halt => ⟨_, rfl, .refused (.refetch nullary)⟩⟩
    · exact .pure fun record activation ⟨info, known⟩ => ⟨method, info, known⟩
  case none =>
    refine Triple.via (fun _ _ _ => False) (.ofStop ?_) fun _ => ?_
    · rintro record activation rfl
      exact ⟨_, rfl, .unsplit nullary⟩
    · exact fun record activation impossible => impossible.elim
  case some.cons =>
    refine Triple.via (fun _ _ _ => False) (.fail ?_) fun _ => ?_
    · rintro record activation rfl
      exact ⟨_, rfl, .arity⟩
    · exact fun record activation impossible => impossible.elim

theorem detailMessage_triple
    (signature : String) :
    Triple (tellingRule setting exception (Told setting exception))
      (fun record _ => record = [success (.typeSignature (.object exception)) signature])
      (detailMessage setting exception)
      (fun record text _ =>
        match text with
        | some text => ∃ method info,
            record = answered setting exception signature method (.returned (.object text)) info
        | none => Told setting exception record
            (.failed (.remoteException (Signature.typeName signature) exception.id))) := by
  refine Triple.tryCatch (Wordless setting exception signature)
    ((invoke_message_triple setting exception signature).bind fun outcome => ?_)
    fun halt => ?_
  · rcases outcome with (_ | text | _ | _ | _) | _
    case returned.object => exact .pure fun record activation known => known
    all_goals
      refine .pure ?_
      rintro record activation ⟨method, info, rfl⟩
      exact .silent
  · cases halt with
    | failed error =>
        cases loss : error.isConnectionLoss with
        | true =>
            simp only [loss, if_true]
            refine .ofStop ?_
            rintro record activation ⟨rest, rfl, muted⟩
            exact .passed muted loss
        | false =>
            simp only [loss, Bool.false_eq_true, if_false]
            refine .pure ?_
            rintro record activation ⟨rest, rfl, muted⟩
            exact .muted muted loss
    | exhausted | aborted =>
        refine .ofStop ?_
        rintro record activation ⟨rest, rfl, muted⟩
        exact .passed muted rfl

theorem exceptionDescription_triple :
    Triple (tellingRule setting exception (Told setting exception))
      (fun record _ => record = [])
      (exceptionDescription setting exception)
      (fun record description _ => Told setting exception record
        (.failed (.remoteException description exception.id))) := by
  refine Triple.via (fun record signature _ =>
      record = [success (.typeSignature (.object exception)) signature])
    (.perform ?_) fun signature => ?_
  · rintro record activation rfl
    exact ⟨⟨_, rfl, .name⟩, fun answer => rfl, fun halt => .unnamed⟩
  refine (detailMessage_triple setting exception signature).bind fun text => ?_
  cases text with
  | none => exact .pure fun record activation told => told
  | some text =>
      refine Triple.via (fun record message _ => Told setting exception record
          (.failed (.remoteException s!"{Signature.typeName signature}: {message}"
            exception.id)))
        (.perform ?_) fun message => ?_
      · rintro record activation ⟨method, info, rfl⟩
        exact ⟨⟨_, rfl, .text⟩, fun answer => .said, fun halt => .unread⟩
      · exact .pure fun record activation told => told

theorem start_raiseThrown_none
    {activation : Activation} (calm : activation.stack.exception = none) :
    (raiseThrown setting).start activation = .done (.ok (), activation) := by
  rcases activation with ⟨frameId, operands, temporaries, locals, pending⟩
  obtain rfl : pending = none := calm
  rfl

/-- With an exception pending, a run puts the questions of its description and ends as told. -/
theorem raiseThrown_triple :
    Triple (tellingRule setting exception (Told setting exception))
      (fun record activation => record = [] ∧ activation.stack.exception = some exception)
      (raiseThrown setting) (fun _ _ _ => False) := by
  rintro record ⟨frameId, operands, temporaries, locals, thrown⟩ ⟨rfl, pending⟩
  obtain rfl : thrown = some exception := pending
  have described : Triple (tellingRule setting exception (Told setting exception))
      (fun record _ => record = [])
      (do
        let description ← exceptionDescription setting exception
        fail (.remoteException description exception.id))
      (fun _ (_ : Unit) _ => False) :=
    (exceptionDescription_triple setting exception).bind fun description =>
      .fail fun record activation told => told
  exact described [] ⟨frameId, operands, temporaries, locals, none⟩ rfl

end Evaluation

end FrameEval
