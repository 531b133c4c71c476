import FrameEval.Evaluation.Step
import FrameEval.Proofs.Evaluation.Triple
import Mathlib.Algebra.Group.Action.Defs
import Mathlib.Algebra.Order.BigOperators.Group.List
import Mathlib.Algebra.Order.Ring.Nat
import Mathlib.Data.Finset.Card

/-!
# Exhaustion

An instruction sets no limit to itself, except that a search of a type hierarchy may look at so
many types only.  So it is exhausted in two ways: an operation did not return, or such a search
came to its limit.  A search asks no type twice and looks at nothing but its source and the
supertypes that it was told, so it comes to its limit only where the types that it asked have
told it that many.

The proof follows the text of the evaluations once.
-/

namespace FrameEval.Evaluation

open Dialogue

variable {α β : Type} {limit : Nat}

/-! ## What exhausts an evaluation -/

/-- Types with the supertypes that they told, the first one first. -/
abbrev Climb := List (String × List String)

namespace Climb

/-- The types that were asked. -/
def types (climb : Climb) : List String :=
  climb.map Prod.fst

/-- The exchanges of a search that asked them. -/
def record (climb : Climb) : Record :=
  climb.map fun step => success (.supertypes step.1) step.2

/-- How many supertypes were told. -/
def told (climb : Climb) : Nat :=
  (climb.map fun step => step.2.length).sum

end Climb

/-- The records after which an evaluation may be exhausted. -/
inductive Weary (limit : Nat) : Record → Prop where
  /-- An operation does not return. -/
  | unreturned
      {earlier : Record} {operation : Operation} :
      Weary limit (earlier ++ [failure operation .exhausted])
  /-- A search was told as many supertypes as it may look at. -/
  | overwhelmed
      {earlier : Record} {climb : Climb} (distinct : climb.types.Nodup)
      (many : limit ≤ climb.told) :
      Weary limit (earlier ++ climb.record)

theorem Weary.prepend
    {record : Record} (weary : Weary limit record) (earlier : Record) :
    Weary limit (earlier ++ record) := by
  cases weary with
  | unreturned =>
      rw [← List.append_assoc]
      exact .unreturned
  | overwhelmed distinct many =>
      rw [← List.append_assoc]
      exact .overwhelmed distinct many

/-- If all operations return, the limit is no larger than what finitely many types can tell. -/
theorem Weary.limit_le
    {record : Record} (weary : Weary limit record)
    (returned : ∀ operation, failure operation .exhausted ∉ record)
    {types : Finset String} {width : Nat}
    (finite : ∀ type parents, success (.supertypes type) parents ∈ record →
      type ∈ types ∧ parents.length ≤ width) :
    limit ≤ types.card * width := by
  cases weary with
  | @unreturned earlier operation => exact (returned operation (by simp)).elim
  | @overwhelmed earlier climb distinct many =>
      have listed : ∀ step ∈ climb, step.1 ∈ types ∧ step.2.length ≤ width :=
        fun step member => finite _ _ (List.mem_append_right _ (List.mem_map_of_mem member))
      have asked : climb.length ≤ types.card := by
        have within : climb.types.toFinset ⊆ types := by
          intro type member
          obtain ⟨step, among, rfl⟩ := List.mem_map.1 (List.mem_toFinset.1 member)
          exact (listed step among).1
        have counted := Finset.card_le_card within
        rwa [List.toFinset_card_of_nodup distinct, Climb.types, List.length_map] at counted
      have told : climb.told ≤ climb.length * width := by
        have summed := List.sum_le_card_nsmul (climb.map fun step => step.2.length) width <| by
          intro length member
          obtain ⟨step, among, rfl⟩ := List.mem_map.1 member
          exact (listed step among).2
        rwa [List.length_map, smul_eq_mul] at summed
      exact many.trans (told.trans (Nat.mul_le_mul_right width asked))

/-- An evaluation is exhausted only after such records. -/
def Endures (limit : Nat) (evaluation : Evaluation α) : Prop :=
  ∀ activation record after,
    (evaluation.start activation).Ends record (.error .exhausted, after) → Weary limit record

/-! ## Single operations -/

theorem Endures.bind
    {evaluation : Evaluation α} {onward : α → Evaluation β}
    (first : Endures limit evaluation) (rest : ∀ value, Endures limit (onward value)) :
    Endures limit (evaluation >>= onward) := by
  intro activation record after ends
  rw [ends_start_bind_iff] at ends
  obtain ⟨halt, between, ends, same⟩ | ⟨earlier, value, between, later, rfl, -, ends⟩ := ends
  · cases same
    exact first _ _ _ ends
  · exact (rest value _ _ _ ends).prepend earlier

theorem Endures.pure (value : α) : Endures limit (Pure.pure value) := by
  intro activation record after ends
  cases ends

theorem Endures.fail (error : EvalError) :
    Endures limit (Evaluation.fail error : Evaluation α) := by
  intro activation record after ends
  cases ends

theorem Endures.orAbort (split : Option α) :
    Endures limit (Evaluation.orAbort split) := by
  cases split with
  | some value => exact .pure value
  | none =>
      intro activation record after ends
      cases ends

theorem Endures.ofExcept (result : Except EvalError α) :
    Endures limit (Evaluation.ofExcept result) := by
  cases result with
  | ok value => exact .pure value
  | error error => exact .fail error

theorem Endures.get : Endures limit MonadState.get := by
  intro activation record after ends
  cases ends

theorem Endures.modify (change : Activation → Activation) :
    Endures limit (modify change) := by
  intro activation record after ends
  cases ends

theorem Endures.onStack (action : OperandStack.Action α) :
    Endures limit (Evaluation.onStack action) := by
  intro activation record after ends
  exact Endures.ofExcept (action activation.stack).1 _ record after ends

theorem Endures.push (value : RemoteValue) : Endures limit (Evaluation.push value) :=
  .modify _

theorem Endures.pop : Endures limit Evaluation.pop :=
  .onStack _

theorem Endures.perform (operation : Operation) :
    Endures limit (Evaluation.perform operation) := by
  intro activation record after ends
  rw [start_perform] at ends
  cases ends with
  | @ask _ _ answer _ _ rest =>
      cases answer with
      | ok answer => cases rest
      | error halt =>
          cases rest
          exact @Weary.unreturned limit [] operation

/-! ## The hierarchy of types -/

/-- What is left to a search after its first steps: each step takes one of the types that were
pending, and adds those that it is told. -/
structure Climbing (limit left : Nat) (pending seen : List String) (climb : Climb) : Prop where
  distinct : climb.types.Nodup
  noted : ∀ type ∈ climb.types, type ∈ seen
  budget : left + 1 + climb.told = limit + pending.length

namespace Climbing

variable {left : Nat} {type : String} {pending seen : List String} {climb : Climb}

theorem start (source : String) : Climbing limit limit [source] [] [] where
  distinct := .nil
  noted _ member := (List.not_mem_nil member).elim
  budget := rfl

theorem drop
    (climbing : Climbing limit (left + 1) (type :: pending) seen climb) :
    Climbing limit left pending seen climb where
  distinct := climbing.distinct
  noted := climbing.noted
  budget := by
    have budget := climbing.budget
    rw [List.length_cons] at budget
    omega

theorem expand
    (climbing : Climbing limit (left + 1) (type :: pending) seen climb) (fresh : type ∉ seen)
    (parents : List String) :
    Climbing limit left (parents.reverse ++ pending) (type :: seen)
      (climb ++ [(type, parents)]) where
  distinct := by
    rw [Climb.types, List.map_append]
    refine climbing.distinct.append (List.nodup_singleton type) ?_
    rintro other among same
    obtain rfl := List.mem_singleton.1 same
    exact fresh (climbing.noted other among)
  noted := by
    intro other member
    rw [Climb.types, List.map_append] at member
    rcases List.mem_append.1 member with earlier | last
    · exact List.mem_cons_of_mem type (climbing.noted other earlier)
    · rw [List.mem_singleton.1 last]
      exact List.mem_cons_self
  budget := by
    have budget := climbing.budget
    rw [List.length_cons] at budget
    have told : Climb.told (climb ++ [(type, parents)]) = climb.told + parents.length := by
      simp [Climb.told]
    rw [told, List.length_append, List.length_reverse]
    omega

/-- A search that has more types to look at than are left to it was told as many as its limit. -/
theorem many
    (climbing : Climbing limit 0 (type :: pending) seen climb) : limit ≤ climb.told := by
  have budget := climbing.budget
  rw [List.length_cons] at budget
  omega

/-- A search is exhausted if one of its questions is, or in the end. -/
theorem weary
    (climbing : Climbing limit left pending seen climb) {target : String}
    {activation after : Activation} {record : Record}
    (ends : ((reaches target left pending seen).start activation).Ends record
      (.error .exhausted, after)) :
    Weary limit (climb.record ++ record) := by
  induction left generalizing pending seen climb record with
  | zero =>
      cases pending with
      | nil => cases ends
      | cons type pending =>
          cases ends
          rw [List.append_nil]
          exact @Weary.overwhelmed limit [] climb climbing.distinct climbing.many
  | succ left ih =>
      cases pending with
      | nil => cases ends
      | cons type pending =>
          rw [reaches] at ends
          split at ends
          · cases ends
          · split at ends
            · exact ih climbing.drop ends
            · next fresh =>
                rw [ends_start_bind_iff] at ends
                obtain ⟨halt, between, ends, same⟩ | ⟨first, parents, between, rest, rfl, told,
                  ends⟩ := ends
                · cases same
                  exact (Endures.perform _ _ _ _ ends).prepend _
                · obtain ⟨rfl, rfl⟩ := of_ends_perform told
                  have later := ih (climbing.expand fresh parents) ends
                  rwa [Climb.record, List.map_append, List.append_assoc] at later

end Climbing

theorem Endures.isAssignable (source target : String) :
    Endures limit (Evaluation.isAssignable limit source target) := by
  unfold Evaluation.isAssignable
  dsimp only
  repeat' split
  all_goals try exact .pure _
  intro activation record after ends
  exact (Climbing.start _).weary ends

variable (setting : Setting)

theorem Endures.instanceOf (value : RemoteValue) (target : String) :
    Endures setting.searchLimit (Evaluation.instanceOf setting value target) :=
  .bind (.perform _) fun _ => .isAssignable _ _

/-! ## Values for a declared type -/

theorem Endures.assign (value : RemoteValue) (declared : String) :
    Endures setting.searchLimit (Evaluation.assign setting value declared) := by
  unfold Evaluation.assign
  cases PrimitiveKind.ofSignature? declared with
  | some kind =>
      cases value with
      | primitive given =>
          dsimp only
          split
          · exact .ofExcept _
          · exact .fail _
      | object | array | null | void => exact .fail _
  | none =>
      cases value with
      | null => exact .pure _
      | primitive | void => exact .fail _
      | object | array =>
          refine .bind (.instanceOf setting _ declared) fun answer => ?_
          cases answer with
          | true => exact .pure _
          | false => exact .fail _

theorem Endures.assignAll (arguments : List RemoteValue) (parameters : List String) :
    Endures setting.searchLimit (Evaluation.assignAll setting arguments parameters) := by
  induction arguments generalizing parameters with
  | nil => exact .pure _
  | cons argument arguments ih =>
      cases parameters with
      | nil => exact .pure _
      | cons parameter parameters =>
          exact .bind (.assign setting argument parameter) fun _ =>
            .bind (ih parameters) fun _ => .pure _

theorem Endures.convertArguments (method : MethodRef) (arguments : List RemoteValue) :
    Endures setting.searchLimit (Evaluation.convertArguments setting method arguments) := by
  refine .bind (.orAbort _) fun parameters => ?_
  dsimp only
  split
  · exact .fail _
  · exact .assignAll setting arguments _

/-! ## The bound frame -/

theorem Endures.slotOf (name : String) : Endures limit (Evaluation.slotOf setting name) := by
  rw [Evaluation.slotOf]
  split
  · exact .pure _
  · exact .fail _

theorem Endures.localVariable (name : String) :
    Endures limit (Evaluation.localVariable setting name) := by
  refine .bind (.slotOf setting name) fun slot => .bind .get fun current =>
    .bind (.perform _) fun values => ?_
  split
  · exact .pure _
  · exact .fail _

theorem Endures.setLocalVariable (name : String) (value : RemoteValue) :
    Endures setting.searchLimit (Evaluation.setLocalVariable setting name value) :=
  .bind (.slotOf setting name) fun slot => .bind (.assign setting value slot.signature) fun _ =>
    .bind .get fun _ => .perform _

/-! ## Invocations -/

theorem Endures.revalidate : Endures limit (Evaluation.revalidate setting) := by
  refine .bind (.perform _) fun info => ?_
  split
  · exact .modify _
  · exact .fail _

/-- The target runs code, and the frame is fetched again. -/
theorem Endures.runCode (operation : Operation) :
    Endures limit (do
      let answer ← Evaluation.perform operation
      Evaluation.revalidate setting
      return answer) :=
  .bind (.perform _) fun _ => .bind (.revalidate setting) fun _ => .pure _

theorem Endures.invokeFound
    (receiver : Option RemoteValue) (method : MethodRef) (arguments : List RemoteValue) :
    Endures setting.searchLimit (Evaluation.invokeFound setting receiver method arguments) :=
  .bind (.convertArguments setting method arguments) fun _ => .runCode setting _

theorem Endures.invoke
    (receiver : RemoteValue) (selector : MethodSelector) (arguments : List RemoteValue) :
    Endures setting.searchLimit (Evaluation.invoke setting receiver selector arguments) := by
  cases receiver with
  | null | primitive | void => exact .fail _
  | object | array =>
      exact .bind (.perform _) fun method => .invokeFound setting _ method arguments

theorem Endures.construct
    (className : String) (selector : MethodSelector) (arguments : List RemoteValue) :
    Endures setting.searchLimit (Evaluation.construct setting className selector arguments) :=
  .bind (.perform _) fun constructor =>
    .bind (.convertArguments setting constructor arguments) fun _ => .runCode setting _

theorem Endures.complete (outcome : InvokeOutcome) :
    Endures limit (Evaluation.complete outcome) := by
  cases outcome with
  | returned value => exact .push value
  | threw exception => exact .modify _

/-! ## Operands -/

theorem Endures.popArray : Endures limit Evaluation.popArray := by
  refine .bind .pop fun value => ?_
  cases value with
  | array handle => exact .pure _
  | null | object | primitive | void => exact .fail _

theorem Endures.popInt (role : String) : Endures limit (Evaluation.popInt role) := by
  refine .bind .pop fun value => ?_
  cases value with
  | primitive given =>
      dsimp only
      split
      · exact .pure _
      · exact .fail _
  | array | null | object | void => exact .fail _

theorem Endures.popCondition : Endures limit Evaluation.popCondition := by
  refine .bind .pop fun value => ?_
  cases value with
  | primitive given =>
      cases given with
      | boolean value => exact .pure _
      | byte | char | short | int | long | float | double => exact .fail _
  | array | object | null | void => exact .fail _

theorem Endures.checkBounds (array : ArrayHandle) (index : Int32) :
    Endures limit (Evaluation.checkBounds array index) := by
  refine .bind (.perform _) fun length => ?_
  split
  · exact .fail _
  · exact .pure _

theorem Endures.checkReceiver (receiver : RemoteValue) (member : String) :
    Endures limit (Evaluation.checkReceiver receiver member) := by
  cases receiver with
  | object | array => exact .pure _
  | null | primitive | void => exact .fail _

theorem Endures.readField (receiver : RemoteValue) (name : String) :
    Endures limit (Evaluation.readField receiver name) :=
  .bind (.perform _) fun _ => .bind (.perform _) fun value => .push value

/-! ## Instructions -/

theorem Endures.newArray (signature : String) :
    Endures limit (Evaluation.newArray signature) := by
  rw [Evaluation.newArray]
  split
  · refine .bind (.popInt _) fun length => ?_
    split
    · exact .fail _
    · exact .bind (.perform _) fun array => .push array
  · exact .fail _

theorem Endures.fieldGet (name : String) : Endures limit (Evaluation.fieldGet name) := by
  refine .bind .pop fun receiver => .bind (.checkReceiver receiver name) fun _ => ?_
  cases receiver with
  | array handle =>
      show Endures _ (if name = "length" then _ else _)
      split
      · exact .bind (.perform _) fun length => .push _
      · exact .readField _ name
  | object | null | primitive | void => exact .readField _ name

theorem Endures.unary (op : UnaryOp) : Endures limit (Evaluation.unary op) := by
  refine .bind .pop fun value => ?_
  cases value with
  | primitive operand => exact .bind (.ofExcept _) fun result => .push _
  | array | object | null | void => exact .fail _

theorem Endures.castReference (value : RemoteValue) (signature : String) :
    Endures setting.searchLimit (Evaluation.castReference setting value signature) := by
  cases value with
  | null => exact .pure _
  | primitive | void => exact .fail _
  | object | array =>
      refine .bind (.instanceOf setting _ signature) fun answer => ?_
      cases answer with
      | true => exact .pure _
      | false => exact .bind (.perform _) fun _ => .fail _

theorem Endures.cast (signature : String) :
    Endures setting.searchLimit (Evaluation.cast setting signature) := by
  refine .bind .pop fun value => ?_
  cases PrimitiveKind.ofSignature? signature with
  | some kind =>
      cases value with
      | primitive given => exact .bind (.ofExcept _) fun result => .push _
      | array | object | null | void => exact .fail _
  | none => exact .bind (.castReference setting value signature) fun result => .push result

theorem Endures.testInstance (signature : String) :
    Endures setting.searchLimit (Evaluation.testInstance setting signature) := by
  refine .bind .pop fun value => ?_
  cases value with
  | null => exact .push _
  | primitive | void => exact .fail _
  | object | array => exact .bind (.instanceOf setting _ signature) fun answer => .push _

theorem Endures.pushLocal (name : String) :
    Endures limit (Evaluation.pushLocal setting name) := by
  refine .bind .get fun activation => ?_
  split
  · exact .push _
  · exact .bind (.localVariable setting name) fun value => .push value

theorem Endures.storeLocal (name : String) :
    Endures setting.searchLimit (Evaluation.storeLocal setting name) := by
  refine .bind .pop fun value => .bind (.onStack _) fun declared => ?_
  cases declared with
  | true => exact .pure _
  | false => exact .setLocalVariable setting name value

theorem Endures.thenNext
    {evaluation : Evaluation Unit} (endures : Endures limit evaluation) :
    Endures limit (do evaluation; return Flow.next) :=
  .bind endures fun _ => .pure _

/-- An instruction is exhausted only by an operation that does not return, or by a search. -/
theorem Endures.step (instruction : Instruction) :
    Endures setting.searchLimit (Evaluation.step setting instruction) := by
  cases instruction with
  | pushLiteral value => exact .thenNext (.push value)
  | pushString text => exact .bind (.perform _) fun string => .thenNext (.push string)
  | pushThis =>
      exact .bind (.bind .get fun _ => .perform _) fun receiver => .thenNext (.push receiver)
  | pushLocal name => exact .thenNext (.pushLocal setting name)
  | storeLocal name => exact .thenNext (.storeLocal setting name)
  | declareLocal name => exact .bind .pop fun _ => .thenNext (.onStack _)
  | loadTemporary slot =>
      exact .bind .get fun _ => .bind (.ofExcept _) fun value => .thenNext (.push value)
  | storeTemporary slot => exact .bind .pop fun _ => .thenNext (.onStack _)
  | pop => exact .bind .pop fun _ => .pure _
  | dup => exact .thenNext (.onStack _)
  | arrayLoad =>
      exact .thenNext <| .bind .popArray fun array => .bind (.popInt _) fun index =>
        .bind (.checkBounds array index) fun _ => .bind (.perform _) fun value => .push value
  | arrayStore =>
      exact .thenNext <| .bind .popArray fun array => .bind (.popInt _) fun index =>
        .bind .pop fun value => .bind (.checkBounds array index) fun _ =>
          .bind (.assign setting value _) fun _ => .perform _
  | arrayLength =>
      exact .thenNext <| .bind .popArray fun array => .bind (.perform _) fun length => .push _
  | newArray signature => exact .thenNext (.newArray signature)
  | fieldGet name => exact .thenNext (.fieldGet name)
  | fieldSet name =>
      exact .thenNext <| .bind .pop fun value => .bind .pop fun receiver =>
        .bind (.checkReceiver receiver name) fun _ => .bind (.perform _) fun field =>
          .bind (.assign setting value _) fun _ => .perform _
  | staticFieldGet className name =>
      exact .thenNext <| .bind (.perform _) fun field => .bind (.perform _) fun value =>
        .push value
  | staticFieldSet className name =>
      exact .thenNext <| .bind .pop fun value => .bind (.perform _) fun field =>
        .bind (.assign setting value _) fun _ => .perform _
  | invoke method =>
      exact .thenNext <| .bind (.onStack _) fun arguments => .bind .pop fun receiver =>
        .bind (.invoke setting receiver method arguments) fun outcome => .complete outcome
  | invokeStatic className method =>
      exact .thenNext <| .bind (.onStack _) fun arguments =>
        .bind (.bind (.perform _) fun found => .invokeFound setting none found arguments)
          fun outcome => .complete outcome
  | new className constructor =>
      exact .thenNext <| .bind (.onStack _) fun arguments =>
        .bind (.construct setting className constructor arguments) fun outcome =>
          .complete outcome
  | cast signature => exact .thenNext (.cast setting signature)
  | instanceOf signature => exact .thenNext (.testInstance setting signature)
  | binary op =>
      exact .thenNext <| .bind .pop fun right => .bind .pop fun left =>
        .bind (.ofExcept _) fun result => .push result
  | unary op => exact .thenNext (.unary op)
  | jump target => exact .pure _
  | jumpIfTrue target =>
      refine .bind .popCondition fun condition => ?_
      cases condition with
      | true => exact .pure _
      | false => exact .pure _
  | jumpIfFalse target =>
      refine .bind .popCondition fun condition => ?_
      cases condition with
      | true => exact .pure _
      | false => exact .pure _

end FrameEval.Evaluation
