import FrameEval.Signature
import FrameEval.Wire.Value

/-!
# Fields and methods

How a program names a method, and what a lookup finds: the declaring type, the id of the
member in it, and its signature.

A selector without a signature counts parameters.  Where they cannot be split there is nothing
to count, so whether a method is selected may have no answer at all.
-/

namespace FrameEval

open Wire

/-- The name of a method, with its signature or else with its number of parameters. -/
structure MethodSelector where
  name : String
  signature : Option String
  arity : Nat
  deriving DecidableEq

namespace MethodSelector

/-- Any method of a name with so many parameters. -/
def ofArity (name : String) (arity : Nat) : MethodSelector :=
  ⟨name, none, arity⟩

/-- The method of a name with exactly this signature, if its parameters can be split. -/
def ofSignature? (name signature : String) : Option MethodSelector :=
  (Signature.arity? signature).map fun arity => ⟨name, some signature, arity⟩

/-- Whether a method is meant: by its signature if the selector has one, else by arity.  There
is no answer if parameters must be counted that cannot be split. -/
def selects? (selector : MethodSelector) (name signature : String) : Option Bool :=
  if name = selector.name then
    match selector.signature with
    | some wanted => some (wanted = signature)
    | none => (Signature.arity? signature).map (· = selector.arity)
  else some false

/-- Whether a method is meant among static or instance methods.  Those of the other sort are
passed over unseen. -/
def selectsAmong? (selector : MethodSelector) (wantStatic : Bool) (name signature : String)
    (isStatic : Bool) : Option Bool :=
  if isStatic = wantStatic then selector.selects? name signature else some false

/-- The text of a selector. -/
def display (selector : MethodSelector) : String :=
  match selector.signature with
  | some signature => selector.name ++ signature
  | none => s!"{selector.name}/{selector.arity}"

end MethodSelector

/-- A field that was found. -/
structure FieldRef where
  declaringType : TypeId
  id : FieldId
  name : String
  signature : String
  isStatic : Bool
  deriving DecidableEq

/-- A method that was found. -/
structure MethodRef where
  declaringType : TypeId
  id : MethodId
  name : String
  signature : String
  isStatic : Bool
  deriving DecidableEq

end FrameEval
