import FrameEval.Evaluation.Basic
import FrameEval.Signature

/-!
# Assignability of references

Whether a value of one reference type may be stored where another is declared.  Arrays are
compared by their components; two class types need a search of the supertypes of the first.
-/

namespace FrameEval

namespace Signature

/-- Strip array dimensions as long as both types have one. -/
def stripCommon : List Char → List Char → List Char × List Char
  | '[' :: source, '[' :: target => stripCommon source target
  | source, target => (source, target)

end Signature

namespace Evaluation

/--
Search the supertypes of the pending types for a type.  The type added last is looked at
first, and the supertypes of a type are asked for once.
-/
def reaches (target : String) : Nat → List String → List String → Evaluation Bool
  | _, [], _ => return false
  | 0, _ :: _, _ => exhaust
  | limit + 1, signature :: pending, seen =>
      if signature = target then return true
      else if signature ∈ seen then reaches target limit pending seen
      else do
        let supertypes ← perform (.supertypes signature)
        reaches target limit (supertypes.reverse ++ pending) (signature :: seen)

/-- Whether a value of the type `source` may be stored where `target` is declared. -/
def isAssignable (limit : Nat) (source target : String) : Evaluation Bool :=
  let stripped := Signature.stripCommon source.toList target.toList
  let source := String.ofList stripped.1
  let target := String.ofList stripped.2
  if source = target then return true
  else if Signature.isPrimitive source || Signature.isPrimitive target then return false
  else if Signature.isArray source then
    return target = Signature.objectClass || Signature.arrayInterfaces.contains target
  else if Signature.isArray target then return false
  else if target = Signature.objectClass then return true
  else reaches target limit [source] []

end Evaluation

end FrameEval
