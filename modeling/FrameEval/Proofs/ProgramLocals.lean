import FrameEval.Proofs.Evaluation.Journal

/-!
# Locals of a program

A name stands for a variable of the frame until the program declares a local of that name, and
for the local from then on.  A local has the class of its initializer, which is not stored
anywhere: an assignment takes it from the value that the local has at the time.  So it has to be
shown that no assignment lets it drift.

What a program has done before is in the journal of its run: the turn in which the local was
declared, and those in which something was stored in it since.
-/

namespace FrameEval

open Wire Dialogue

/-! ## Classes of values -/

/-- What a local may hold: primitives of one kind, references, or the absence of a value. -/
inductive LocalClass where
  | primitive (kind : PrimitiveKind)
  | reference
  | void
  deriving DecidableEq

namespace RemoteValue

def localClass : RemoteValue → LocalClass
  | primitive given => .primitive given.kind
  | object _ => .reference
  | array _ => .reference
  | null => .reference
  | void => .void

/-- What a local holds once a value was given to it, if its class is that of the initial value. -/
inductive Conveys : RemoteValue → RemoteValue → RemoteValue → Prop where
  /-- A primitive is widened to the kind of the initial one. -/
  | widened
      {first given stored : Primitive} (widens : given.kind.widensTo first.kind = true)
      (cast : given.cast first.kind = .ok stored) :
      Conveys (.primitive first) (.primitive given) (.primitive stored)
  | reference
      {initial given : RemoteValue} (holds : initial.isReference = true)
      (gives : given.isReference = true) : Conveys initial given given
  | void : Conveys .void .void .void

variable {initial held given stored : RemoteValue}

theorem localClass_eq_reference_iff :
    held.localClass = .reference ↔ held.isReference = true := by
  cases held <;> simp [localClass, isReference]

theorem conveys_self (initial : RemoteValue) : initial.Conveys initial initial := by
  cases initial with
  | primitive first =>
      refine .widened ?_ ?_
      · cases first.kind <;> rfl
      · rw [Primitive.cast, if_pos rfl]
  | object | array | null => exact .reference rfl rfl
  | void => exact .void

/-- What is conveyed has the class of the initial value. -/
theorem Conveys.localClass_eq
    (conveys : initial.Conveys given stored) : stored.localClass = initial.localClass := by
  cases conveys with
  | widened widens cast => exact congrArg LocalClass.primitive (Primitive.kind_cast cast)
  | reference holds gives =>
      rw [localClass_eq_reference_iff.2 gives, localClass_eq_reference_iff.2 holds]
  | void => rfl

/-- Widening keeps an integer. -/
theorem Conveys.standsFor
    {first value result : Primitive} {number : Int}
    (conveys : (primitive first).Conveys (.primitive value) (.primitive result))
    (known : value.toInt? = some number) (integral : first.kind.isIntegral = true) :
    result.StandsFor first.kind number := by
  cases conveys with
  | widened widens cast =>
      obtain ⟨same, returned, stands⟩ := Primitive.cast_widened known widens integral
      cases cast.symm.trans returned
      exact stands
  | reference holds => cases holds

/-- Which values a local accepts depends on the class of the one that it holds. -/
theorem accepts_congr
    (same : held.localClass = initial.localClass) : held.Accepts given ↔ initial.Accepts given := by
  have kept : ∀ {one other : RemoteValue}, one.localClass = other.localClass →
      one.Accepts given → other.Accepts given := by
    intro one other same accepts
    cases accepts with
    | @widened held given widens =>
        cases other with
        | primitive first =>
            rw [show held.kind = first.kind from LocalClass.primitive.inj same] at widens
            exact .widened widens
        | object | array | null | void => cases same
    | reference holds gives =>
        rw [localClass_eq_reference_iff.2 holds] at same
        exact .reference (localClass_eq_reference_iff.1 same.symm) gives
  exact ⟨kept same, kept same.symm⟩

end RemoteValue

/-- An assignment conveys the value to the class of the one held, which is that of the first. -/
theorem OperandStack.converted_conveys
    {initial held given : RemoteValue} (name : String)
    (same : held.localClass = initial.localClass) (accepts : initial.Accepts given) :
    ∃ stored, converted name held given = .ok stored ∧ initial.Conveys given stored := by
  cases accepts with
  | @widened first value widens =>
      cases held with
      | primitive old =>
          have kinds : old.kind = first.kind := LocalClass.primitive.inj same
          rw [← kinds] at widens
          obtain ⟨stored, cast, -, converts⟩ := converted_of_widensTo name widens
          rw [kinds] at widens cast
          exact ⟨_, converts, .widened widens cast⟩
      | object | array | null | void => cases same
  | reference holds gives =>
      rw [RemoteValue.localClass_eq_reference_iff.2 holds,
        RemoteValue.localClass_eq_reference_iff] at same
      exact ⟨given, converted_of_isReference name same gives, .reference holds gives⟩

/-- An activation with other operands. -/
abbrev Activation.holding (activation : Activation) (operands : List RemoteValue) : Activation :=
  { activation with stack := { activation.stack with operands := operands } }

namespace Evaluation

variable {setting : Setting} {name : String} {initial held given : RemoteValue}
  {below : List RemoteValue} {activation after : Activation} {record : Record} {flow : Flow}

/-! ## Instructions that name a local -/

theorem start_onStack_of_ok
    {α : Type} {action : OperandStack.Action α} {result : α} {stack : OperandStack}
    (acted : action activation.stack = (.ok result, stack)) :
    (onStack action).start activation = .done (.ok result, { activation with stack := stack }) := by
  change (ofExcept (action activation.stack).1).start
    { activation with stack := (action activation.stack).2 } = _
  rw [acted]
  rfl

theorem start_onStack_of_error
    {α : Type} {action : OperandStack.Action α} {error : EvalError} {stack : OperandStack}
    (acted : action activation.stack = (.error error, stack)) :
    (onStack action).start activation =
      .done (.error (.failed error), { activation with stack := stack }) := by
  change (ofExcept (action activation.stack).1).start
    { activation with stack := (action activation.stack).2 } = _
  rw [acted]
  rfl

theorem start_get_bind
    {α : Type} (onward : Activation → Evaluation α) (activation : Activation) :
    (get >>= onward).start activation = (onward activation).start activation := rfl

theorem start_pop_of_cons
    (loaded : activation.stack.operands = given :: below) :
    pop.start activation = .done (.ok given, activation.holding below) := by
  refine start_onStack_of_ok ?_
  rw [OperandStack.pop, loaded]

theorem start_pop_of_nil
    (starved : activation.stack.operands = []) :
    pop.start activation = .done (.error (.failed .stackUnderflow), activation) := by
  refine start_onStack_of_error ?_
  rw [OperandStack.pop, starved]

/-- A local of the program is pushed without a question. -/
theorem start_pushLocal_of_some
    (bound : activation.stack.local? name = some held) :
    (step setting (.pushLocal name)).start activation =
      .done (.ok .next, activation.over [held]) := by
  refine start_bind_of_done (?_ : (pushLocal setting name).start activation = .done (.ok (), _))
  rw [pushLocal, start_get_bind]
  simp only [bound]
  rfl

/-- The operand on top is taken, and then it is assigned. -/
theorem start_storeLocal_of_cons
    (loaded : activation.stack.operands = given :: below) :
    (storeLocal setting name).start activation =
      (onStack (OperandStack.assignLocal name given) >>= fun declared =>
        if declared then return else setLocalVariable setting name given).start
          (activation.holding below) :=
  start_bind_of_done (start_pop_of_cons loaded)

/-- A local of the program is assigned without a question, if it accepts the value. -/
theorem start_storeLocal_of_converted
    (loaded : activation.stack.operands = given :: below)
    (bound : activation.stack.local? name = some held) {stored : RemoteValue}
    (converts : OperandStack.converted name held given = .ok stored) :
    (step setting (.storeLocal name)).start activation =
      .done (.ok .next,
        { activation with
          stack :=
            { activation.stack with
              operands := below, locals := activation.stack.locals.insert name stored } }) := by
  have still : (activation.holding below).stack.local? name = some held := bound
  refine start_bind_of_done (?_ : (storeLocal setting name).start activation = .done (.ok (), _))
  rw [start_storeLocal_of_cons loaded]
  exact start_bind_of_done
    (start_onStack_of_ok (OperandStack.assignLocal_of_converted still converts))

variable (setting) in
theorem start_storeLocal_of_not_accepts
    (loaded : activation.stack.operands = given :: below)
    (bound : activation.stack.local? name = some held) (refused : ¬ held.Accepts given) :
    ∃ detail, (step setting (.storeLocal name)).start activation =
      .done (.error (.failed (.typeMismatch detail)), activation.holding below) := by
  have still : (activation.holding below).stack.local? name = some held := bound
  obtain ⟨detail, failed⟩ := OperandStack.assignLocal_of_not_accepts still refused
  refine ⟨detail, start_bind_of_error ?_⟩
  rw [start_storeLocal_of_cons loaded]
  exact start_bind_of_error (start_onStack_of_error failed)

/-- Without an operand nothing is stored. -/
theorem start_storeLocal_of_nil
    (starved : activation.stack.operands = []) :
    (step setting (.storeLocal name)).start activation =
      .done (.error (.failed .stackUnderflow), activation) :=
  start_bind_of_error (start_bind_of_error (start_pop_of_nil starved))

/-- Where the program has no local of the name, the variable of the frame is assigned. -/
theorem start_storeLocal_of_none
    (loaded : activation.stack.operands = given :: below)
    (unbound : activation.stack.local? name = none) :
    (step setting (.storeLocal name)).start activation =
      (setLocalVariable setting name given >>= fun _ => pure Flow.next).start
        (activation.holding below) := by
  have still : (activation.holding below).stack.local? name = none := unbound
  have missed := OperandStack.assignLocal_of_none still given
  change (storeLocal setting name >>= fun _ => pure Flow.next).start activation = _
  rw [start_bind, start_storeLocal_of_cons loaded,
    start_bind_of_done (start_onStack_of_ok missed), start_bind]
  rfl

/-- The operand on top is taken, and then the name is declared. -/
theorem start_declareLocal_of_cons
    (loaded : activation.stack.operands = given :: below) :
    (step setting (.declareLocal name)).start activation =
      (onStack (OperandStack.declareLocal name given) >>= fun _ => pure Flow.next).start
        (activation.holding below) :=
  start_bind_of_done (start_pop_of_cons loaded)

variable (setting) in
/-- A name is not declared twice. -/
theorem start_declareLocal_of_some
    (bound : activation.stack.local? name = some held) :
    ∃ error after, (step setting (.declareLocal name)).start activation =
      .done (.error (.failed error), after) := by
  cases loaded : activation.stack.operands with
  | nil => exact ⟨_, _, start_bind_of_error (start_pop_of_nil loaded)⟩
  | cons given below =>
      have still : (activation.holding below).stack.local? name = some held := bound
      obtain ⟨detail, failed⟩ := OperandStack.declareLocal_of_some still given
      rw [start_declareLocal_of_cons loaded]
      exact ⟨_, _, start_bind_of_error (start_onStack_of_error failed)⟩

/-- A declaration that is completed binds a name that was free to the operand on top. -/
theorem ends_declareLocal
    (ends : ((step setting (.declareLocal name)).start activation).Ends record
      (.ok flow, after)) :
    ∃ initial, activation.stack.operands.head? = some initial ∧
      after.stack.local? name = some initial := by
  cases bound : activation.stack.local? name with
  | some held =>
      obtain ⟨error, between, failed⟩ := start_declareLocal_of_some setting bound
      rw [failed] at ends
      cases ends
  | none =>
      cases loaded : activation.stack.operands with
      | nil =>
          have failed : (step setting (.declareLocal name)).start activation = _ :=
            start_bind_of_error (start_pop_of_nil loaded)
          rw [failed] at ends
          cases ends
      | cons initial below =>
          have still : (activation.holding below).stack.local? name = none := bound
          have declared := OperandStack.declareLocal_of_none still initial
          rw [start_declareLocal_of_cons loaded,
            start_bind_of_done (start_onStack_of_ok declared)] at ends
          cases ends
          exact ⟨initial, rfl, Table.find?_insert_self ..⟩

/-! ## The variable of the frame -/

theorem asks_pushLocal
    {asked : Inquiry}
    (asks : ((step setting (.pushLocal name)).start activation).Asks record asked) :
    ∃ slot, setting.binding.symbols.find? name = some slot ∧
      asked = .operation (.frameValues setting.binding.thread activation.frameId [slot]) := by
  obtain ⟨operation, rfl, put⟩ := mayPut_of_asks asks
  cases put with
  | @frameValues _ slot found => exact ⟨slot, found, rfl⟩
  | typeSignature compares => cases compares
  | supertypes compares => cases compares
  | refetch runsCode => cases runsCode

/-- The values that are looked at to convert what is stored, and the storing. -/
theorem asks_storeLocal
    {asked : Inquiry}
    (asks : ((step setting (.storeLocal name)).start activation).Asks record asked) :
    (∃ value, asked = .operation (.typeSignature value)) ∨
      (∃ signature, asked = .operation (.supertypes signature)) ∨
      ∃ slot stored, setting.binding.symbols.find? name = some slot ∧
        asked = .operation
          (.setFrameValue setting.binding.thread activation.frameId slot stored) := by
  obtain ⟨operation, rfl, put⟩ := mayPut_of_asks asks
  cases put with
  | typeSignature _ value => exact .inl ⟨value, rfl⟩
  | supertypes _ signature => exact .inr (.inl ⟨signature, rfl⟩)
  | @setFrameValue _ slot found stored => exact .inr (.inr ⟨slot, stored, found, rfl⟩)
  | refetch runsCode => cases runsCode

theorem start_slotOf_of_find?
    {slot : LocalSlot} (found : setting.binding.symbols.find? name = some slot) :
    (slotOf setting name).start activation = .done (.ok slot, activation) := by
  rw [slotOf]
  simp only [found]
  rfl

theorem start_slotOf_of_none
    (missing : setting.binding.symbols.find? name = none) :
    (slotOf setting name).start activation =
      .done (.error (.failed (.noSuchVariable name)), activation) := by
  rw [slotOf]
  simp only [missing]
  rfl

theorem ends_localVariable
    {value : RemoteValue}
    (ends : ((localVariable setting name).start activation).Ends record (.ok value, after)) :
    ∃ slot values, setting.binding.symbols.find? name = some slot ∧
      record = [success (.frameValues setting.binding.thread activation.frameId [slot]) values] ∧
      values.getLast? = some value ∧ after = activation := by
  rw [localVariable] at ends
  cases found : setting.binding.symbols.find? name with
  | none =>
      rw [start_bind_of_error (start_slotOf_of_none found)] at ends
      cases ends
  | some slot =>
      rw [start_bind_of_done (start_slotOf_of_find? found)] at ends
      change ((perform (.frameValues setting.binding.thread activation.frameId [slot]) >>=
        _).start activation).Ends _ _ at ends
      rw [ends_start_bind_iff] at ends
      obtain ⟨_, _, _, impossible⟩ | ⟨first, values, between, rest, rfl, answered, ends⟩ := ends
      · cases impossible
      obtain ⟨rfl, rfl⟩ := of_ends_perform answered
      split at ends
      · next last known =>
          cases ends
          exact ⟨slot, values, rfl, rfl, known, rfl⟩
      · cases ends

/-- Where the program has no local of the name, what is pushed is what the frame has. -/
theorem ends_pushLocal_of_none
    (unbound : activation.stack.local? name = none)
    (ends : ((step setting (.pushLocal name)).start activation).Ends record (.ok flow, after)) :
    ∃ slot values value, setting.binding.symbols.find? name = some slot ∧
      record = [success (.frameValues setting.binding.thread activation.frameId [slot]) values] ∧
      values.getLast? = some value ∧ after = activation.over [value] := by
  have started : (pushLocal setting name).start activation =
      (localVariable setting name >>= push).start activation := by
    rw [pushLocal, start_get_bind]
    simp only [unbound]
  rw [step, ends_start_bind_iff] at ends
  obtain ⟨_, _, _, impossible⟩ | ⟨first, _, between, rest, rfl, pushed, ends⟩ := ends
  · cases impossible
  rw [started, ends_start_bind_iff] at pushed
  obtain ⟨_, _, _, impossible⟩ | ⟨read, value, _, more, rfl, answered, pushed⟩ := pushed
  · cases impossible
  obtain ⟨slot, values, found, rfl, known, rfl⟩ := ends_localVariable answered
  cases pushed
  cases ends
  exact ⟨slot, values, value, found, rfl, known, rfl⟩

/-- What is assigned to the variable of the frame is stored in it in the end. -/
theorem ends_setLocalVariable
    (ends : ((setLocalVariable setting name given).start activation).Ends record
      (.ok (), after)) :
    ∃ slot stored earlier, setting.binding.symbols.find? name = some slot ∧
      ((assign setting given slot.signature).start activation).Ends earlier
        (.ok stored, activation) ∧
      record = earlier ++
        [success (.setFrameValue setting.binding.thread activation.frameId slot stored) ()] ∧
      after = activation := by
  rw [setLocalVariable] at ends
  cases found : setting.binding.symbols.find? name with
  | none =>
      rw [start_bind_of_error (start_slotOf_of_none found)] at ends
      cases ends
  | some slot =>
      rw [start_bind_of_done (start_slotOf_of_find? found), ends_start_bind_iff] at ends
      obtain ⟨_, _, _, impossible⟩ | ⟨earlier, stored, between, rest, rfl, converts, ends⟩ := ends
      · cases impossible
      -- A conversion may ask for types, but it leaves the activation as it is.
      have kept : Keeps setting.binding activation.frameId (.storeLocal name) (· = activation)
          (assign setting given slot.signature) := keeps_assign rfl given slot.signature
      obtain ⟨rfl, -⟩ :=
        ((meets_iff _ _).1 (kept [] activation ⟨rfl, rfl⟩)).2 earlier _ converts
      obtain ⟨rfl, rfl⟩ := of_ends_perform
        (show ((perform (.setFrameValue _ between.frameId slot stored)).start between).Ends _ _
          from ends)
      exact ⟨slot, stored, earlier, rfl, converts, rfl, rfl⟩

/-- Where the program has no local of the name, what is stored goes to the frame. -/
theorem ends_storeLocal_of_none
    (unbound : activation.stack.local? name = none)
    (ends : ((step setting (.storeLocal name)).start activation).Ends record (.ok flow, after)) :
    ∃ given below slot stored earlier, activation.stack.operands = given :: below ∧
      setting.binding.symbols.find? name = some slot ∧
      ((assign setting given slot.signature).start (activation.holding below)).Ends earlier
        (.ok stored, activation.holding below) ∧
      record = earlier ++
        [success (.setFrameValue setting.binding.thread activation.frameId slot stored) ()] ∧
      after = activation.holding below := by
  cases loaded : activation.stack.operands with
  | nil =>
      rw [start_storeLocal_of_nil loaded] at ends
      cases ends
  | cons given below =>
      rw [start_storeLocal_of_none loaded unbound, ends_start_bind_iff] at ends
      obtain ⟨_, _, _, impossible⟩ | ⟨first, _, between, rest, rfl, stores, ends⟩ := ends
      · cases impossible
      obtain ⟨slot, stored, earlier, found, converts, rfl, rfl⟩ := ends_setLocalVariable stores
      cases ends
      exact ⟨given, below, slot, stored, earlier, rfl, found, converts, List.append_nil _, rfl⟩

/-! ## The history of a local -/

/-- The value that a turn stores under a name. -/
def Moment.stored? (name : String) (moment : Moment) : Option RemoteValue :=
  if moment.instruction = .storeLocal name then moment.before.stack.operands.head? else none

/-- What was last stored under a name since it was declared, or else the initial value. -/
def latest (name : String) (initial : RemoteValue) (later : List Moment) : RemoteValue :=
  (later.filterMap (Moment.stored? name)).getLastD initial

theorem latest_concat
    (name : String) (initial : RemoteValue) (later : List Moment) (moment : Moment) :
    latest name initial (later ++ [moment]) =
      (moment.stored? name).getD (latest name initial later) := by
  rw [latest, List.filterMap_append]
  cases stored : moment.stored? name <;> simp [stored, latest]

theorem stored?_of_ne
    {moment : Moment} (other : moment.instruction ≠ .storeLocal name) :
    moment.stored? name = none :=
  if_neg other

section Journal

variable {program : Program} {watched : Bool} {id : FrameId} {moments : List Moment}
  {counter : Nat}

/-- An instruction that binds a name declares it or stores under it. -/
theorem binds?_cases
    {instruction : Instruction} (binds : instruction.binds? = some name) :
    instruction = .storeLocal name ∨ instruction = .declareLocal name := by
  cases instruction <;> first
    | exact .inl (congrArg Instruction.storeLocal (Option.some.inj binds))
    | exact .inr (congrArg Instruction.declareLocal (Option.some.inj binds))
    | cases binds

/-- A name is bound by its declaration only. -/
theorem Journal.unbound
    (journal : Journal setting program watched id moments record counter activation)
    (undeclared : ∀ moment ∈ moments, moment.instruction ≠ .declareLocal name) :
    activation.stack.local? name = none := by
  induction journal with
  | start => rfl
  | @turn moments _ _ counter _ before _ instruction _ _ ends ih =>
      have earlier := ih fun moment member => undeclared moment (List.mem_append_left _ member)
      have other : instruction ≠ .declareLocal name :=
        undeclared ⟨counter, instruction, before⟩ (by simp)
      obtain ⟨made, flow, completed⟩ := completed_of_turn ends
      by_cases free : instruction.binds? ≠ some name
      · exact ((footing_local free none).of_ends earlier completed.ends).2
      · obtain rfl := (binds?_cases (not_not.1 free)).resolve_right other
        obtain ⟨given, below, -, -, -, -, -, -, -, rfl⟩ :=
          ends_storeLocal_of_none earlier completed.ends
        exact earlier

/-- A completed store leaves what the value is converted to. -/
theorem ends_storeLocal_of_some
    (bound : activation.stack.local? name = some held)
    (same : held.localClass = initial.localClass)
    (ends : ((step setting (.storeLocal name)).start activation).Ends record (.ok flow, after)) :
    ∃ given stored, activation.stack.operands.head? = some given ∧
      after.stack.local? name = some stored ∧ initial.Conveys given stored := by
  cases loaded : activation.stack.operands with
  | nil =>
      rw [start_storeLocal_of_nil loaded] at ends
      cases ends
  | cons given below =>
      by_cases accepts : held.Accepts given
      · obtain ⟨stored, converts, conveys⟩ :=
          OperandStack.converted_conveys name same ((RemoteValue.accepts_congr same).1 accepts)
        rw [start_storeLocal_of_converted loaded bound converts] at ends
        cases ends
        exact ⟨given, stored, rfl, Table.find?_insert_self .., conveys⟩
      · obtain ⟨detail, failed⟩ :=
          start_storeLocal_of_not_accepts setting loaded bound accepts
        rw [failed] at ends
        cases ends

/-- A name is bound to what was last stored under it, converted to the class of the initial
value, and it is not declared again. -/
def Follows (name : String) (initial : RemoteValue) (later : List Moment)
    (activation : Activation) : Prop :=
  ∃ held, activation.stack.local? name = some held ∧
    initial.Conveys (latest name initial later) held ∧
      ∀ moment ∈ later, moment.instruction ≠ .declareLocal name

/-- A turn that is completed keeps the binding, or it stores under the name. -/
theorem Follows.turn
    {later : List Moment} {instruction : Instruction}
    (follows : Follows name initial later activation)
    (ends : ((step setting instruction).start activation).Ends record (.ok flow, after)) :
    Follows name initial (later ++ [⟨counter, instruction, activation⟩]) after := by
  obtain ⟨held, bound, conveys, once⟩ := follows
  rw [Follows, latest_concat]
  by_cases free : instruction.binds? ≠ some name
  · have kept := ((footing_local free (some held)).of_ends bound ends).2
    have quiet : instruction ≠ .storeLocal name := fun same => free (same ▸ rfl)
    have again : instruction ≠ .declareLocal name := fun same => free (same ▸ rfl)
    rw [stored?_of_ne quiet]
    exact ⟨held, kept, conveys, by simpa [or_imp, forall_and] using ⟨once, again⟩⟩
  · rcases binds?_cases (not_not.1 free) with rfl | rfl
    · obtain ⟨given, stored, taken, kept, anew⟩ :=
        ends_storeLocal_of_some bound conveys.localClass_eq ends
      rw [Moment.stored?, if_pos rfl, taken]
      exact ⟨stored, kept, anew, by simpa [or_imp, forall_and] using once⟩
    · obtain ⟨error, between, failed⟩ := start_declareLocal_of_some setting bound
      rw [failed] at ends
      cases ends

/-- From its declaration on a name is bound to what follows from the turns since then. -/
theorem Journal.follows
    (journal : Journal setting program watched id moments record counter activation)
    {earlier later : List Moment} {declaration : Moment}
    (parts : moments = earlier ++ declaration :: later)
    (declares : declaration.instruction = .declareLocal name) :
    ∃ initial, declaration.before.stack.operands.head? = some initial ∧
      Follows name initial later activation := by
  induction journal generalizing later with
  | start => simp at parts
  | @turn moments _ _ counter _ before after instruction _ _ ends ih =>
      obtain ⟨made, flow, completed⟩ := completed_of_turn ends
      rcases List.eq_nil_or_concat later with rfl | ⟨later, last, rfl⟩
      · obtain ⟨rfl, rfl⟩ := List.concat_inj.1 (by simpa using parts)
        obtain rfl : instruction = .declareLocal name := declares
        obtain ⟨initial, top, bound⟩ := ends_declareLocal completed.ends
        exact ⟨initial, top, initial, bound, initial.conveys_self, by simp⟩
      · have joined : moments.concat ⟨counter, instruction, before⟩ =
            (earlier ++ declaration :: later).concat last := by
          simpa using parts
        obtain ⟨rfl, rfl⟩ := List.concat_inj.1 joined
        obtain ⟨initial, top, follows⟩ := ih rfl
        rw [List.concat_eq_append]
        exact ⟨initial, top, follows.turn completed.ends⟩

end Journal

/-! ## What a name stands for -/

/-- A name stands for the variable of the frame. -/
structure NamesVariable (setting : Setting) (name : String) (activation : Activation) : Prop where
  unbound : activation.stack.local? name = none
  /-- All that a push asks for is the variable of that name. -/
  reads : ∀ {record asked}, ((step setting (.pushLocal name)).start activation).Asks record asked →
    ∃ slot, setting.binding.symbols.find? name = some slot ∧
      asked = .operation (.frameValues setting.binding.thread activation.frameId [slot])
  pushes : ∀ {record flow after},
    ((step setting (.pushLocal name)).start activation).Ends record (.ok flow, after) →
      ∃ slot values value, setting.binding.symbols.find? name = some slot ∧
        record =
          [success (.frameValues setting.binding.thread activation.frameId [slot]) values] ∧
        values.getLast? = some value ∧ after = activation.over [value]
  /-- A store asks for types, and it sets the variable of that name. -/
  writes : ∀ {record asked},
    ((step setting (.storeLocal name)).start activation).Asks record asked →
      (∃ value, asked = .operation (.typeSignature value)) ∨
      (∃ signature, asked = .operation (.supertypes signature)) ∨
      ∃ slot stored, setting.binding.symbols.find? name = some slot ∧
        asked = .operation
          (.setFrameValue setting.binding.thread activation.frameId slot stored)
  stores : ∀ {record flow after},
    ((step setting (.storeLocal name)).start activation).Ends record (.ok flow, after) →
      ∃ given below slot stored earlier, activation.stack.operands = given :: below ∧
        setting.binding.symbols.find? name = some slot ∧
        ((assign setting given slot.signature).start (activation.holding below)).Ends earlier
          (.ok stored, activation.holding below) ∧
        record = earlier ++
          [success (.setFrameValue setting.binding.thread activation.frameId slot stored) ()] ∧
        after = activation.holding below

theorem namesVariable_of_unbound
    (unbound : activation.stack.local? name = none) : NamesVariable setting name activation where
  unbound := unbound
  reads := asks_pushLocal
  pushes := ends_pushLocal_of_none unbound
  writes := asks_storeLocal
  stores := ends_storeLocal_of_none unbound

/-- A name stands for a local of the program: one that was declared with an initial value and
holds what was given to it last.  None of the instructions that name it asks anything. -/
structure NamesLocal (setting : Setting) (name : String) (initial given held : RemoteValue)
    (activation : Activation) : Prop where
  conveys : initial.Conveys given held
  sameClass : held.localClass = initial.localClass
  pushes : (step setting (.pushLocal name)).start activation =
    .done (.ok .next, activation.over [held])
  /-- A value of a kind that widens to that of the local, or a reference for a reference, is
  stored as what it is converted to, which is again of the class of the initial value. -/
  stores : ∀ {value below}, activation.stack.operands = value :: below →
    initial.Accepts value → ∃ stored, initial.Conveys value stored ∧
      stored.localClass = initial.localClass ∧
      (step setting (.storeLocal name)).start activation =
        .done (.ok .next,
          { activation with
            stack :=
              { activation.stack with
                operands := below, locals := activation.stack.locals.insert name stored } })
  refuses : ∀ {value below}, activation.stack.operands = value :: below →
    ¬ initial.Accepts value → ∃ detail, (step setting (.storeLocal name)).start activation =
      .done (.error (.failed (.typeMismatch detail)), activation.holding below)
  starves : activation.stack.operands = [] →
    (step setting (.storeLocal name)).start activation =
      .done (.error (.failed .stackUnderflow), activation)
  /-- A second declaration fails. -/
  redeclares : ∃ error after, (step setting (.declareLocal name)).start activation =
    .done (.error (.failed error), after)

theorem namesLocal_of_some
    (bound : activation.stack.local? name = some held) (conveys : initial.Conveys given held) :
    NamesLocal setting name initial given held activation := by
  have same := conveys.localClass_eq
  refine
    { conveys := conveys
      sameClass := same
      pushes := start_pushLocal_of_some bound
      stores := ?stores
      refuses := ?refuses
      starves := start_storeLocal_of_nil
      redeclares := start_declareLocal_of_some setting bound }
  case stores =>
    intro value below loaded accepts
    obtain ⟨stored, converts, conveyed⟩ := OperandStack.converted_conveys name same accepts
    exact ⟨stored, conveyed, conveyed.localClass_eq,
      start_storeLocal_of_converted loaded bound converts⟩
  case refuses =>
    intro value below loaded refused
    exact start_storeLocal_of_not_accepts setting loaded bound
      fun accepts => refused ((RemoteValue.accepts_congr same).1 accepts)

/-- Nothing that names a local asks a question. -/
theorem NamesLocal.not_asks
    (names : NamesLocal setting name initial given held activation) {instruction : Instruction}
    (naming : instruction ∈ [.pushLocal name, .storeLocal name, .declareLocal name])
    (asked : Inquiry) : ¬ ((step setting instruction).start activation).Asks record asked := by
  have silent : ∃ ended, (step setting instruction).start activation = .done ended := by
    simp only [List.mem_cons, List.not_mem_nil, or_false] at naming
    rcases naming with rfl | rfl | rfl
    · exact ⟨_, names.pushes⟩
    · cases loaded : activation.stack.operands with
      | nil => exact ⟨_, names.starves loaded⟩
      | cons value below =>
          by_cases accepts : initial.Accepts value
          · obtain ⟨stored, -, -, started⟩ := names.stores loaded accepts
            exact ⟨_, started⟩
          · obtain ⟨detail, started⟩ := names.refuses loaded accepts
            exact ⟨_, started⟩
    · obtain ⟨error, after, started⟩ := names.redeclares
      exact ⟨_, started⟩
  obtain ⟨ended, started⟩ := silent
  rw [started]
  exact not_asks_done _ _ _

end Evaluation

/-! ## Runs -/

open Evaluation

/-- What a name stands for at each point of the runs of a program. -/
structure ShadowsFrame (context : Context) (mode : RunMode) (program : Program) (name : String) :
    Prop where
  /-- Before the name is declared it stands for the variable of the frame. -/
  undeclared : ∀ {moments record counter activation},
    Journal ⟨context.binding, mode.searchLimit⟩ program mode.watched context.frameId
      moments record counter activation →
    (∀ moment ∈ moments, moment.instruction ≠ .declareLocal name) →
      NamesVariable ⟨context.binding, mode.searchLimit⟩ name activation
  /-- From its declaration on it stands for the local, which holds what was last stored in it. -/
  declared : ∀ {earlier declaration later record counter activation},
    Journal ⟨context.binding, mode.searchLimit⟩ program mode.watched context.frameId
      (earlier ++ declaration :: later) record counter activation →
    declaration.instruction = .declareLocal name →
      ∃ initial held, declaration.before.stack.operands.head? = some initial ∧
        (∀ moment ∈ later, moment.instruction ≠ .declareLocal name) ∧
        NamesLocal ⟨context.binding, mode.searchLimit⟩ name initial (latest name initial later)
          held activation
  /-- Every question of a run is put in a turn that follows a journal.  If the name is declared
  there and the instruction names it, only cancellation is asked for. -/
  silent : ∀ {record asked}, (context.run mode program).Asks record asked →
    ∃ moments earlier current counter activation instruction, record = earlier ++ current ∧
      Journal ⟨context.binding, mode.searchLimit⟩ program mode.watched context.frameId
        moments earlier counter activation ∧
      program[counter]? = some instruction ∧
      ((turn ⟨context.binding, mode.searchLimit⟩ program.length mode.watched counter
        instruction).start activation).Asks current asked ∧
      ((∃ moment ∈ moments, moment.instruction = .declareLocal name) →
        instruction ∈ [.pushLocal name, .storeLocal name, .declareLocal name] →
          asked = .cancelled)

/-- In every run of every program, a local that the program has declared hides the variable of
the frame and keeps its class. -/
theorem program_locals_shadow_frame
    (context : Context) (mode : RunMode) (program : Program) (name : String) :
    ShadowsFrame context mode program name := by
  refine { undeclared := ?undeclared, declared := ?declared, silent := ?silent }
  case undeclared =>
    intro moments record counter activation journal free
    exact namesVariable_of_unbound (journal.unbound free)
  case declared =>
    intro earlier declaration later record counter activation journal declares
    obtain ⟨initial, top, held, bound, conveys, once⟩ := journal.follows rfl declares
    exact ⟨initial, held, top, once, namesLocal_of_some bound conveys⟩
  case silent =>
    intro record asked asks
    obtain ⟨moments, before, current, counter, activation, instruction, parts, journal, found,
      within⟩ := Context.journal_of_asks asks
    refine ⟨moments, before, current, counter, activation, instruction, parts, journal, found,
      within, ?_⟩
    rintro ⟨declaration, member, declares⟩ naming
    obtain ⟨earlier, later, rfl⟩ := List.append_of_mem member
    obtain ⟨initial, -, held, bound, conveys, -⟩ := journal.follows rfl declares
    have codeless : instruction.runsCode = false := by
      simp only [List.mem_cons, List.not_mem_nil, or_false] at naming
      rcases naming with rfl | rfl | rfl <;> rfl
    rcases asks_codeless_turn journal.calm codeless within with check | ⟨made, executes⟩
    · exact check
    · exact ((namesLocal_of_some bound conveys).not_asks naming asked executes).elim

/-- A `long` stays one when an `int` is stored in it, and the frame is not asked. -/
example (context : Context) :
    context.run ⟨false, 5, 0⟩
      [.pushLiteral (.primitive (.long 1)), .declareLocal "n", .pushLiteral (.primitive (.int 2)),
        .storeLocal "n", .pushLocal "n"] =
      .done (.ok (.primitive (.long 2)), context) := rfl

end FrameEval
