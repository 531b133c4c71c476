import FrameEval.Primitive.Kind

/-!
# Type signatures

A type is named by its signature: one character for a primitive, `L` with a class name
and `;` for a class, `[` and a component for an array.  A method is named by the
signatures of its parameters in parentheses and the signature of its result.

Splitting the parameters of a method never looks at what the parts mean, so it works on
any text.  A parameter that starts with a character outside ASCII is not a type at all,
and a list that holds one is refused.
-/

namespace FrameEval.Signature

/-- The class that every reference type extends. -/
def objectClass : String := "Ljava/lang/Object;"

/-- The class of strings. -/
def stringClass : String := "Ljava/lang/String;"

/-- The interfaces of every array type. -/
def arrayInterfaces : List String := ["Ljava/lang/Cloneable;", "Ljava/io/Serializable;"]

/-- Whether a signature is that of a primitive type. -/
def isPrimitive (signature : String) : Bool :=
  (PrimitiveKind.ofSignature? signature).isSome

/-- Whether a signature is that of an array type. -/
def isArray (signature : String) : Bool :=
  signature.toList.head? = some '['

/-- The text between a leading `L` and a closing `;`, or the whole text without them. -/
def className (letters : List Char) : List Char :=
  match letters with
  | 'L' :: rest => if rest.getLast? = some ';' then rest.dropLast else letters
  | _ => letters

/-- The source name of a type that is not written as an array. -/
def scalarName (letters : List Char) : List Char :=
  match PrimitiveKind.ofSignature? (String.ofList letters) with
  | some kind => kind.name.toList
  | none =>
      if letters = ['V'] then "void".toList
      else (className letters).map fun letter => if letter = '/' then '.' else letter

/-- The source name of a type as characters: one pair of brackets for each dimension. -/
def nameLetters : List Char → List Char
  | '[' :: component => nameLetters component ++ ['[', ']']
  | letters => scalarName letters

/-- The source name of a type, such as `java.lang.String` or `int[][]`. -/
def typeName (signature : String) : String :=
  String.ofList (nameLetters signature.toList)

/-- The text between a leading `(` and the first `)` after it. -/
def parameterText : List Char → List Char
  | '(' :: rest => rest.takeWhile (· ≠ ')')
  | _ => []

/-- Where a text of parameters is being split. -/
inductive SplitState where
  /-- Before the end of a parameter, after these brackets in reverse order. -/
  | dimensions (before : List Char)
  /-- Within a class name, after these characters in reverse order. -/
  | className (before : List Char)

/--
Split a text into parameters.  A class name runs to its `;` and may hold any character;
without `;` it is the last parameter.  Any other ASCII character ends the parameter, and
brackets without one are dropped.
-/
def split? : SplitState → List Char → Option (List (List Char))
  | .dimensions _, [] => some []
  | .className before, [] => some [before.reverse]
  | .dimensions before, letter :: rest =>
      if letter = '[' then split? (.dimensions (letter :: before)) rest
      else if letter = 'L' then split? (.className (letter :: before)) rest
      else if letter.toNat < 128 then
        (split? (.dimensions []) rest).map ((letter :: before).reverse :: ·)
      else none
  | .className before, letter :: rest =>
      if letter = ';' then
        (split? (.dimensions []) rest).map ((letter :: before).reverse :: ·)
      else split? (.className (letter :: before)) rest

/-- The signatures of the parameters of a method, if each starts as a type does. -/
def parameters? (signature : String) : Option (List String) :=
  (split? (.dimensions []) (parameterText signature.toList)).map (List.map String.ofList)

/-- The number of parameters of a method, if they can be split. -/
def arity? (signature : String) : Option Nat :=
  (parameters? signature).map List.length

end FrameEval.Signature
