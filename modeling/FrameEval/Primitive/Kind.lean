/-!
# Primitive kinds

The eight primitive types, their one-character signatures and the widening order between
them.
-/

namespace FrameEval

/-- A primitive type. -/
inductive PrimitiveKind where
  | boolean
  | byte
  | char
  | short
  | int
  | long
  | float
  | double
  deriving DecidableEq, Inhabited

namespace PrimitiveKind

/-- The tag byte of a kind, which is also its signature character. -/
def tag : PrimitiveKind → UInt8
  | boolean => 90
  | byte => 66
  | char => 67
  | short => 83
  | int => 73
  | long => 74
  | float => 70
  | double => 68

/-- The kind with a given tag byte. -/
def ofTag? (tag : UInt8) : Option PrimitiveKind :=
  if tag = 90 then some boolean
  else if tag = 66 then some byte
  else if tag = 67 then some char
  else if tag = 83 then some short
  else if tag = 73 then some int
  else if tag = 74 then some long
  else if tag = 70 then some float
  else if tag = 68 then some double
  else none

@[simp]
theorem ofTag?_tag (kind : PrimitiveKind) : ofTag? kind.tag = some kind := by
  cases kind <;> rfl

/-- The signature character of a kind. -/
def letter (kind : PrimitiveKind) : Char :=
  Char.ofNat kind.tag.toNat

/-- The signature of a kind. -/
def signature (kind : PrimitiveKind) : String :=
  String.singleton kind.letter

/-- The kind with a given signature, which is a single character. -/
def ofSignature? (signature : String) : Option PrimitiveKind :=
  match signature.toList with
  | [letter] => if letter.toNat < 128 then ofTag? (UInt8.ofNat letter.toNat) else none
  | _ => none

/-- The name of a kind in the source language of the target. -/
def name : PrimitiveKind → String
  | boolean => "boolean"
  | byte => "byte"
  | char => "char"
  | short => "short"
  | int => "int"
  | long => "long"
  | float => "float"
  | double => "double"

/-- The kind with a given name. -/
def ofName? : String → Option PrimitiveKind
  | "boolean" => some boolean
  | "byte" => some byte
  | "char" => some char
  | "short" => some short
  | "int" => some int
  | "long" => some long
  | "float" => some float
  | "double" => some double
  | _ => none

/-- Whether values of a kind are integers. -/
def isIntegral : PrimitiveKind → Bool
  | byte => true
  | char => true
  | short => true
  | int => true
  | long => true
  | _ => false

/-- Whether a kind converts to another by identity or by widening. -/
def widensTo : PrimitiveKind → PrimitiveKind → Bool
  | boolean, target => target = boolean
  | byte, target => target ≠ boolean && target ≠ char
  | short, target =>
      target = short || target = int || target = long || target = float || target = double
  | char, target =>
      target = char || target = int || target = long || target = float || target = double
  | int, target => target = int || target = long || target = float || target = double
  | long, target => target = long || target = float || target = double
  | float, target => target = float || target = double
  | double, target => target = double

end PrimitiveKind

end FrameEval
