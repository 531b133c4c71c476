import FrameEval.Json.Basic

/-!
# Reading structures and variants from JSON

A variant is a string, or an object of one member whose value is the content of the
variant.  A structure is an object whose other members are ignored, or an array of the
fields in their order, from which fields may be missing at the end.
-/

namespace FrameEval.Json

/-- The name of a variant and its content. -/
def variant? : Json → Option (String × Option Json)
  | string name => some (name, none)
  | object [(name, content)] => some (name, some content)
  | _ => none

/-- Whether the content of a variant is that of one without content. -/
def isUnit : Option Json → Bool
  | none => true
  | some null => true
  | _ => false

/-- The fields of a structure, each absent or present. -/
def fields? (names : List String) (json : Json) : Option (List (Option Json)) :=
  match json with
  | object _ => some (names.map fun name => json.member? name)
  | array items =>
      if items.length ≤ names.length then
        some (items.map some ++ List.replicate (names.length - items.length) none)
      else none
  | _ => none

/-- The content of a field that may be absent; null counts as absent. -/
def given : Option Json → Option Json
  | some null => none
  | content => content

/-- A natural number below a bound. -/
def below? (bound : Nat) (json : Json) : Option Nat := do
  let value ← json.natural?
  if value.toNat < bound then some value.toNat else none

/-- An integer from `least` up to `greatest`. -/
def between? (least greatest : Int) (json : Json) : Option Int := do
  let value ← json.integer?
  if least ≤ value ∧ value ≤ greatest then some value else none

/-- A truth value. -/
def bool? : Json → Option Bool
  | bool value => some value
  | _ => none

/-- A text, or none for null; an absent field counts as null. -/
def optionalString? : Option Json → Option (Option String)
  | none => some none
  | some null => some none
  | some (string value) => some (some value)
  | _ => none

/-- Any number, rounded to a double once. -/
def double? : Json → Option Double
  | number (.natural value) => some (Double.ofInt value.toNat)
  | number (.negative value) => some (Double.ofInt value.toInt)
  | number (.real value) => some value
  | _ => none

/-- Any number as a single; an integer is rounded once, a real was a double before. -/
def single? : Json → Option Single
  | number (.natural value) => some (Single.ofInt value.toNat)
  | number (.negative value) => some (Single.ofInt value.toInt)
  | number (.real value) => some value.toSingle
  | _ => none

/-- A number from a double; what is not finite becomes null. -/
def ofDouble (value : Double) : Json :=
  match value.datum with
  | .finite _ _ _ => number (.real value)
  | _ => null

end FrameEval.Json
