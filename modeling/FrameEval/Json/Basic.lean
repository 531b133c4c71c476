import FrameEval.Binary.Number

/-!
# JSON values

A JSON value with three forms of numbers: what fits 64 unsigned bits, what is negative
and fits 64 signed bits, and everything else as a double.  The members of an object are
in ascending order of their names and no name occurs twice; `setMember` keeps it so.
-/

namespace FrameEval

namespace Json

/-- A number of a JSON text. -/
inductive Number where
  | natural (value : UInt64)
  /-- An integer below zero. -/
  | negative (value : Int64)
  | real (value : Double)
  deriving DecidableEq

end Json

/-- A JSON value. -/
inductive Json where
  | null
  | bool (value : Bool)
  | number (value : Json.Number)
  | string (value : String)
  | array (items : List Json)
  | object (members : List (String × Json))

namespace Json

instance : Inhabited Json := ⟨null⟩

/-- Put a member at its place in ascending order; one of the same name is replaced. -/
def setMember (name : String) (value : Json) :
    List (String × Json) → List (String × Json)
  | [] => [(name, value)]
  | first :: rest =>
      if name = first.1 then (name, value) :: rest
      else if name < first.1 then (name, value) :: first :: rest
      else first :: setMember name value rest

/-- An object of the given members, the last of equal names counting. -/
def ofMembers (members : List (String × Json)) : Json :=
  object (members.foldl (fun sorted member => setMember member.1 member.2 sorted) [])

/-- A number from an unsigned word. -/
def ofUInt64 (value : UInt64) : Json :=
  number (.natural value)

/-- A number from a signed word. -/
def ofInt64 (value : Int64) : Json :=
  if value < 0 then number (.negative value) else number (.natural value.toUInt64)

/-- A number from a natural number below `2 ^ 64`. -/
def ofNat (value : Nat) : Json :=
  number (.natural (UInt64.ofNat value))

/-- The member of an object with a given name; no other value has members. -/
def member? (name : String) : Json → Option Json
  | object members => (members.find? fun entry => entry.1 = name).map Prod.snd
  | _ => none

/-- The text of a string. -/
def string? : Json → Option String
  | string value => some value
  | _ => none

/-- An integer that fits 64 unsigned bits. -/
def natural? : Json → Option UInt64
  | number (.natural value) => some value
  | _ => none

/-- Any integer of the text. -/
def integer? : Json → Option Int
  | number (.natural value) => some value.toNat
  | number (.negative value) => some value.toInt
  | _ => none

/-- The items of an array. -/
def items? : Json → Option (List Json)
  | array items => some items
  | _ => none

end Json

end FrameEval
